import Switchboard.Url.DomainName.Composition
import Switchboard.Url.DomainName.Direction
import Switchboard.Url.DomainName.Joining
import Switchboard.Url.DomainName.Mapping
import Switchboard.Url.DomainName.Punycode

/-!
# Names of hosts

A name is a text of labels with dots in between. Its ASCII form has every character replaced by
what it counts as, and every label with characters beyond ASCII written in ASCII after `xn--`. A
label that comes in this form has to stand for a label that would be written so.

Main definition: `DomainName.toAscii?`.
-/

namespace Switchboard.DomainName

/-- What the characters of a name count as, composed; `none` if one may not stand in a name. -/
def normalized? (cs : List Char) : Option (List Char) :=
  (cs.mapM mapped?).map fun images => composed images.flatten

/-- The label that a label in its ASCII form stands for; others stand for themselves. -/
def decodedLabel? (label : List Char) : Option (List Char) :=
  match label with
  | 'x' :: 'n' :: '-' :: '-' :: rest =>
    (Punycode.decode? rest).filter fun cs =>
      !cs.all Punycode.isBasic && normalized? cs = some cs
  | _ => some label

/-- Whether a label can be read as it stands. -/
def labelFits (label : List Char) : Bool :=
  !label.head?.any isMark && joinersFit [] label

/-- Whether labels can stand together. -/
def labelsFit (labels : List (List Char)) : Bool :=
  labels.all labelFits && (!labels.any turnsRight || labels.all directionsFit)

/-- A label in its ASCII form. -/
def encodedLabel (label : List Char) : List Char :=
  if label.all Punycode.isBasic then label else 'x' :: 'n' :: '-' :: '-' :: Punycode.encode label

/-- The ASCII form of a name. -/
def toAscii? (name : List Char) : Option (List Char) := do
  let normalized ← normalized? name
  let labels ← (Text.splitAt '.' normalized).mapM decodedLabel?
  if labelsFit labels then some (Text.joinWith '.' (labels.map encodedLabel)) else none

end Switchboard.DomainName
