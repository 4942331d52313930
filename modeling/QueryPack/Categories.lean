import QueryPack.FirstOccurrences

namespace QueryPack

/-!
# The categories of a pack

A category has a name and a query for the languages that define none of their
own. A pack lists each category once: building the categories from a list of
entries keeps the first entry of a name, and `dropped` lists the rest.
-/

/-- A kind of query, known by its identifier. -/
structure Category where
  name : String
  deriving Repr, DecidableEq

namespace Category

def fileName (category : Category) : String :=
  category.name ++ ".scm"

end Category

/-- A category with the query for languages that define none of their own. -/
structure ListedCategory where
  category : Category
  defaultQuery : String
  deriving Repr, DecidableEq

/-- The categories of a pack with their defaults, each once, in order. -/
structure Categories where
  entries : List ListedCategory
  nodup : (entries.map ListedCategory.category).Nodup
  deriving DecidableEq

namespace Categories

/-- Build from entries; the first entry of a category is the one kept. -/
def ofEntries (entries : List ListedCategory) : Categories where
  entries := firstOccurrences ListedCategory.category entries
  nodup := nodup_firstOccurrences ListedCategory.category entries

/-- The entries that `ofEntries` leaves out, in order. -/
def dropped (entries : List ListedCategory) : List ListedCategory :=
  laterOccurrences ListedCategory.category entries

def entriesOfNames (names : List String) : List ListedCategory :=
  names.map fun name => { category := ⟨name⟩, defaultQuery := "" }

/-- Categories of the given names whose defaults are all empty. -/
def ofNames (names : List String) : Categories :=
  ofEntries (entriesOfNames names)

def list (categories : Categories) : List Category :=
  categories.entries.map ListedCategory.category

def size (categories : Categories) : Nat :=
  categories.entries.length

def isEmpty (categories : Categories) : Bool :=
  categories.entries.isEmpty

def contains (categories : Categories) (category : Category) : Bool :=
  decide (category ∈ categories.list)

/-- The default query of a category; empty for a category that is not listed. -/
def defaultQueryOf (categories : Categories) (category : Category) : String :=
  match categories.entries.find? (fun entry => entry.category = category) with
  | some entry => entry.defaultQuery
  | none => ""

theorem contains_eq_true_iff {categories : Categories} {category : Category} :
    categories.contains category = true ↔ category ∈ categories.list := by
  simp [contains]

end Categories

end QueryPack
