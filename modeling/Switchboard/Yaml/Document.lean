import Switchboard.Document
import Switchboard.Yaml.Node

/-!
# YAML as documents

What scalars stand for depends on what they are read into: a plain scalar read into a text is its
text, read into a number it has to be a numeral. A scalar that is taken as it comes is resolved by
its looks: nothing, a truth value, a number, or else a text.
-/

namespace Switchboard.Yaml

/-! ## What plain scalars look like -/

def isNull (s : String) : Bool :=
  s = "~" || s = "null" || s = "Null" || s = "NULL"

def flag? (s : String) : Option Bool :=
  if s = "true" || s = "True" || s = "TRUE" then some true
  else if s = "false" || s = "False" || s = "FALSE" then some false
  else none

/-- A leading zero before further digits makes a text, not a number. -/
def digitsButText (cs : List Char) : Bool :=
  let cs := match cs with
    | c :: rest => if c = '-' || c = '+' then rest else c :: rest
    | [] => []
  match cs with
  | '0' :: d :: rest => (d :: rest).all Char.isDigit
  | _ => false

/-- Digits of a radix, at least one. -/
def radixDigits? (radix : Nat) (cs : List Char) : Option Nat :=
  if cs.isEmpty then none
  else cs.foldl (fun n? c => do
    let n ← n?
    let d ← Json.hexValue? c
    if d < radix then some (n * radix + d) else none) (some 0)

/-- The number after a sign: decimal, or of a radix named in front. The text without its sign is
given a second time with it, for the rule on leading zeros. -/
def magnitude? (bound : Nat) (signed unsigned : List Char) : Option Nat :=
  let below (n? : Option Nat) : Option Nat := n?.filter (· < bound)
  let radix? := match unsigned with
    | '0' :: 'x' :: rest => below (radixDigits? 16 rest)
    | '0' :: 'o' :: rest => below (radixDigits? 8 rest)
    | '0' :: 'b' :: rest => below (radixDigits? 2 rest)
    | _ => none
  match radix? with
  | some n => some n
  | none =>
    if digitsButText signed then none else below (Decimal.readDigits? unsigned)

/-- An unsigned whole number below a bound. -/
def unsigned? (bound : Nat) (s : String) : Option Nat :=
  match s.toList with
  | '+' :: rest => magnitude? bound ('+' :: rest) rest
  | cs => magnitude? bound cs cs

/-- Looks like a negative whole number not below `-bound`. -/
def isNegative (bound : Nat) (s : String) : Bool :=
  match s.toList with
  | '-' :: rest => (magnitude? (bound + 1) ('-' :: rest) rest).isSome
  | _ => false

/-- A decimal with digits before or after the point, and maybe an exponent, is below the bound of
the 64-bit floats. The digits are those of the mantissa, without the point. -/
def isFiniteDecimal (mantissa : List Char) (exponent : Int) : Bool :=
  let significant := mantissa.dropWhile (· = '0')
  let size : Int := significant.length + exponent
  if significant.isEmpty || size ≤ 308 then true
  else if 309 < size then false
  else
    let n := Nat.ofDigitChars 10 significant 0
    let bound := Nat.pow 2 1024 - Nat.pow 2 970
    let power := Nat.pow 10 exponent.natAbs
    if exponent < 0 then n < bound * power else n * power < bound

/-- Looks like a finite float. -/
def isFloat (s : String) : Bool :=
  let unsigned? := match s.toList with
    | '+' :: '+' :: _ => none
    | '+' :: '-' :: _ => none
    | '+' :: rest => some rest
    | '-' :: rest => some rest
    | cs => some cs
  match unsigned? with
  | none => false
  | some cs =>
    let (whole, rest) := Json.digits cs
    let (fraction, rest) := match rest with
      | '.' :: rest => Json.digits rest
      | rest => ([], rest)
    if whole.isEmpty && fraction.isEmpty then false
    else
      match Json.readExponent? rest with
      | some (none, []) => isFiniteDecimal (whole ++ fraction) (-fraction.length)
      | some (some (negative, ds), []) =>
        let e : Int := Nat.ofDigitChars 10 ds 0
        isFiniteDecimal (whole ++ fraction) ((if negative then -e else e) - fraction.length)
      | _ => false

/-- Looks like a float, the infinite ones and the one that is no number among them. -/
def isFloatName (s : String) : Bool :=
  s ∈ [".inf", ".Inf", ".INF", "+.inf", "+.Inf", "+.INF", "-.inf", "-.Inf", "-.INF", ".nan", ".NaN",
    ".NAN"]

/-- Looks like a whole number of up to 128 bits. -/
def isInteger (s : String) : Bool :=
  (unsigned? (Nat.pow 2 128) s).isSome || isNegative (Nat.pow 2 127) s

/-- A plain scalar without a tag, taken as it comes. Whole numbers beyond 64 bits make no sense. -/
def resolve? (s : String) : Option Atom :=
  if s = "" || isNull s || (flag? s).isSome then some .other
  else
    match unsigned? Decimal.wordBound s with
    | some n => some (.index n)
    | none =>
      if isInteger s then if isNegative (Nat.pow 2 63) s then some .other else none
      else if !digitsButText s.toList && (isFloat s || isFloatName s) then some .other
      else some (.text s)

/-! ## Tags -/

def standardTag (name : String) : String := "tag:yaml.org,2002:" ++ name

/-- The tag names a type of the application, which nothing here has. -/
def isLocalTag (tag : Option String) : Bool :=
  match tag with
  | some t => t.toList.head? = some '!'
  | none => false

/-- A scalar taken as it comes. -/
def scalarAtom? (tag : Option String) (style : Style) (s : String) : Option Atom :=
  if isLocalTag tag then none
  else if tag = some (standardTag "bool") then (flag? s).map fun _ => .other
  else if tag = some (standardTag "int") then
    match unsigned? Decimal.wordBound s with
    | some n => some (.index n)
    | none => if isNegative (Nat.pow 2 63) s then some .other else none
  else if tag = some (standardTag "float") then
    if isFloat s || isFloatName s then some .other else none
  else if tag = some (standardTag "null") then if isNull s then some .other else none
  else if tag.isNone && style = .plain then resolve? s
  else some (.text s)

/-! ## Nodes at their place -/

/-- A node with the nodes that aliases refer to, and the room for nesting that is left. -/
structure Placed where
  anchored : List (Nat × Node)
  room : Nat
  node : Node

/-- Deepest nesting of collections. -/
def maxNesting : Nat := 128

namespace Placed

/-- The node that an alias refers to; every other node itself. -/
def target (d : Placed) : Node :=
  match d.node with
  | .alias id => ((d.anchored.find? fun e => e.1 = id).map (·.2)).getD (.empty none)
  | node => node

def inside (d : Placed) (node : Node) : Placed := ⟨d.anchored, d.room - 1, node⟩

/-- Every part of a node makes sense when it is taken as it comes. -/
def isSound (anchored : List (Nat × Node)) : Nat → Node → Bool
  | room, node =>
    match (⟨anchored, room, node⟩ : Placed).target, room with
    | .scalar tag style s, _ => (scalarAtom? tag style s).isSome
    | .sequence tag items, room + 1 =>
      !isLocalTag tag && items.all (isSound anchored room)
    | .mapping tag entries, room + 1 =>
      !isLocalTag tag &&
        entries.all fun e => isSound anchored room e.1 && isSound anchored room e.2
    | _, _ => false

end Placed

instance : Document Placed where
  shape? d := match d.target with
    | .mapping _ entries =>
      if d.room = 0 then none
      else some (.members (entries.map fun e => (d.inside e.1, d.inside e.2)))
    | .sequence _ items => if d.room = 0 then none else some (.items (items.map d.inside))
    | .scalar _ style s => some (if style = .plain && s = "" then .nothing else .scalar)
    | .alias _ => none
  text? d := match d.target with
    | .scalar _ _ s => some s
    | _ => none
  word? d := match d.target with
    | .scalar tag style s =>
      if style = .plain || (style = .literal && tag = some (standardTag "int")) then
        (unsigned? Decimal.wordBound s).map Nat.toUInt64
      else none
    | _ => none
  flag? d := match d.target with
    | .scalar tag style s =>
      if style = .plain || (style = .literal && tag = some (standardTag "bool")) then flag? s
      else none
    | _ => none
  absent? d := match d.target with
    | .scalar tag style s =>
      if style ≠ .plain then some false
      else
        match tag with
        | some t => if t = standardTag "null" then if isNull s then some true else none else some false
        | none => some (s = "" || isNull s)
    | _ => some false
  atom? d := match d.target with
    | .scalar tag style s => scalarAtom? tag style s
    | _ => if Placed.isSound d.anchored d.room d.node then some .other else none

/-- The document of a text, at its place. -/
def read? (text : String) : Option Placed :=
  (document? text.toList).map fun (node, anchored) => ⟨anchored, maxNesting, node⟩

end Switchboard.Yaml
