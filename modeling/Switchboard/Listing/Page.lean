import Switchboard.Listing.Cursor

/-!
# Pages of a listing

A listing that is computed afresh for every call is handed out one window at a time. A page says
where it starts, how much is left, and which cursor leads on.
-/

namespace Switchboard

/-- Page size when the caller asks for zero items. -/
def defaultPageSize : Nat := 50

/-- Largest page. -/
def maxPageSize : Nat := 500

/-- Brings a requested page size into `1 … maxPageSize`; zero asks for the default. -/
def normalizeLimit (limit : Nat) : Nat :=
  if limit = 0 then defaultPageSize else min limit maxPageSize

/-- One window of a listing. -/
structure Page (α : Type) where
  items : List α
  /-- Position of the first item in the listing. -/
  offset : Nat
  /-- Length of the whole listing. -/
  total : Nat
  hasMore : Bool
  /-- How many items follow the window. -/
  remainingCount : Nat
  /-- Leads to the next window; absent on the last page. -/
  nextCursor : Option String
  deriving Repr, DecidableEq

/-! ## Windows -/

/-- Cuts the window of a listing that starts at the cursor. A start beyond the end is the end. -/
def paginate {α : Type} (items : List α) (cursor : Option String) (limit : Nat) : Page α :=
  let total := items.length
  let start := min ((cursor.map Cursor.decode).getD 0) total
  let stop := min (start + normalizeLimit limit) total
  let hasMore := decide (stop < total)
  { items := (items.drop start).take (stop - start)
    offset := start
    total := total
    hasMore := hasMore
    remainingCount := total - stop
    nextCursor := if hasMore then some (Cursor.encode stop) else none }

/-! ## Windows in words of 64 bits -/

/-- The sum of two words, or the largest word where there is no room for the sum. -/
def saturatingAdd (a b : UInt64) : UInt64 :=
  if a.toNat + b.toNat < Decimal.wordBound then a + b else 0xFFFFFFFFFFFFFFFF

/-- The numbers of a window as words. -/
structure WordWindow where
  start : UInt64
  size : UInt64
  /-- How many items follow. -/
  rest : UInt64
  deriving Repr, DecidableEq

/-- Counts a window in words. The sum stops at the largest word; a difference below zero would come
out as a large word. -/
def WordWindow.count (offset width total : UInt64) : WordWindow :=
  let start := min offset total
  let stop := min (saturatingAdd start width) total
  ⟨start, stop - start, total - stop⟩

end Switchboard
