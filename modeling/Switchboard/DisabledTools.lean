import Switchboard.NameMap

/-!
# Disabled tools

The names of tools that are not offered, whether or not any service has such a tool. A change shows
at the next registration.
-/

namespace Switchboard

/-- A set of tool names. -/
structure DisabledTools where
  names : NameSet
  deriving Repr, DecidableEq

namespace DisabledTools

def empty : DisabledTools := ⟨NameMap.empty⟩

/-- The set of the listed names. -/
def ofNames (names : List String) : DisabledTools := ⟨NameSet.ofNames names⟩

def contains (d : DisabledTools) (name : String) : Bool := d.names.contains name

/-- Adds a name; says whether it was new. -/
def disable (d : DisabledTools) (name : String) : Bool × DisabledTools :=
  (!d.contains name, ⟨d.names.insert name ()⟩)

/-- Takes a name out; says whether it was there. -/
def enable (d : DisabledTools) (name : String) : Bool × DisabledTools :=
  (d.contains name, ⟨d.names.erase name⟩)

/-- The names, ascending. -/
def toList (d : DisabledTools) : List String := d.names.keys

end DisabledTools

end Switchboard
