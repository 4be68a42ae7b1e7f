/-!
# Catalogs

The services that a manager knows how to build. One of them is critical: it comes first, and
without it nothing works.
-/

namespace Switchboard

/-- A service under the name by which it is known. -/
structure CatalogEntry (σ : Type) where
  name : String
  /-- The service as it is built, not started. -/
  service : σ
  deriving Repr

/-- Known services in order. -/
structure Catalog (σ : Type) where
  critical : CatalogEntry σ
  optional : List (CatalogEntry σ)
  deriving Repr

namespace Catalog

variable {σ : Type}

/-- All entries, the critical one first. -/
def entries (c : Catalog σ) : List (CatalogEntry σ) := c.critical :: c.optional

def names (c : Catalog σ) : List String := c.entries.map (·.name)

def size (c : Catalog σ) : Nat := c.entries.length

end Catalog

end Switchboard
