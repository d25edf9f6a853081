import CppAdvice.Check.Descriptor
import CppAdvice.Index

/-!
# Catalogs

Descriptors in the order in which they were registered, and indexes to find them by. Groups are kept
as lists of ids.
-/

namespace CppAdvice

/-- Registered descriptors, in order and by what they are looked up by. -/
structure Catalog where
  descriptors : List Descriptor := []
  byId : Index String Descriptor := {}
  /-- By the names without the category. -/
  byName : Index String Descriptor := {}
  idsOfCategory : Index Category (List String) := {}
  idsOfMinTier : Index Language.Tier (List String) := {}
deriving Repr, DecidableEq

namespace Catalog

/-- Adds a descriptor at the end, and to each index. -/
def register (c : Catalog) (d : Descriptor) : Catalog where
  descriptors := c.descriptors ++ [d]
  byId := c.byId.insert d.id d
  byName := c.byName.insert d.name d
  idsOfCategory := c.idsOfCategory.push d.category d.id
  idsOfMinTier := c.idsOfMinTier.push d.minTier d.id

/-- The catalog in which the given descriptors are registered one after another. -/
def ofList (descriptors : List Descriptor) : Catalog :=
  descriptors.foldl register {}

/-- The descriptor with the given id. -/
def get? (c : Catalog) (id : String) : Option Descriptor :=
  c.byId.get? id

/-- The descriptor with the given name, without its category. -/
def findByName? (c : Catalog) (name : String) : Option Descriptor :=
  c.byName.get? name

/-- The descriptors with the given ids, if there are any. -/
def lookup (c : Catalog) (ids : Option (List String)) : List Descriptor :=
  (ids.map fun ids => ids.filterMap c.get?).getD []

/-- The descriptors of a category. -/
def ofCategory (c : Catalog) (category : Category) : List Descriptor :=
  c.lookup (c.idsOfCategory.get? category)

/-- The descriptors whose lowest tier is the given one. -/
def ofMinTier (c : Catalog) (tier : Language.Tier) : List Descriptor :=
  c.lookup (c.idsOfMinTier.get? tier)

/-- The id that a name of a check stands for, where older names stand for ids as `aliases` says: an
older name, a name without the category, or the id itself. Any other name stands for itself. -/
def resolve (c : Catalog) (aliases : List (String × String)) (name : String) : String :=
  match aliases.lookup name with
  | some id => id
  | none =>
    if name.toList.contains '.' then name
    else match c.findByName? name with
      | some d => d.id
      | none => name

end Catalog

end CppAdvice
