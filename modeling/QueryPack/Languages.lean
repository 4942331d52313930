import QueryPack.FirstOccurrences

namespace QueryPack

/-!
# The languages of a pack

A query pack holds one query for every language and every category. Names are
opaque text, and a pack lists each language once: building the languages from a
list of names keeps the first place of a name, and `dropped` lists the rest.
-/

/-- A source language, known by its identifier. -/
structure Language where
  name : String
  deriving Repr, DecidableEq

/-- The languages of a pack, each once, in the order they are written. -/
structure Languages where
  list : List Language
  nodup : list.Nodup
  deriving DecidableEq

namespace Languages

/-- Build from names; a repeated name keeps its first place. -/
def ofNames (names : List String) : Languages where
  list := firstOccurrences id (names.map Language.mk)
  nodup := by
    simpa using nodup_firstOccurrences id (names.map Language.mk)

/-- The repetitions that `ofNames` leaves out, in order. -/
def dropped (names : List String) : List Language :=
  laterOccurrences id (names.map Language.mk)

def size (languages : Languages) : Nat :=
  languages.list.length

def isEmpty (languages : Languages) : Bool :=
  languages.list.isEmpty

def contains (languages : Languages) (language : Language) : Bool :=
  decide (language ∈ languages.list)

theorem contains_eq_true_iff {languages : Languages} {language : Language} :
    languages.contains language = true ↔ language ∈ languages.list := by
  simp [contains]

end Languages

end QueryPack
