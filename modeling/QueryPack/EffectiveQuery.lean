import QueryPack.Overrides

namespace QueryPack

/-!
# The effective query of a pair

Every language and category has exactly one effective query: the override of
the pair, else the category's default if it is not empty, else a placeholder
that names both. Every pair has one; unknown names fall through to the
placeholder like any other missing definition.
-/

/-- Where an effective query comes from. -/
inductive Provenance where
  | override
  | categoryDefault
  /-- Nothing is defined; the text only says so. -/
  | placeholder
  deriving Repr, DecidableEq

namespace Provenance

/-- The word for a source in logs, events and reports. -/
def label : Provenance → String
  | .override => "override"
  | .categoryDefault => "default"
  | .placeholder => "placeholder"

end Provenance

/-- The effective query of a pair. -/
structure EffectiveQuery where
  language : Language
  category : Category
  expression : String
  source : Provenance
  deriving Repr, DecidableEq

namespace EffectiveQuery

def bytes (query : EffectiveQuery) : Nat :=
  query.expression.utf8ByteSize

end EffectiveQuery

/-- The stand-in for a pair without any definition: a comment that names both. -/
def placeholderText (language : Language) (category : Category) : String :=
  "; No " ++ category.name ++ " queries for " ++ language.name

/-- What decides every effective query: the overrides and the category defaults. -/
structure QueryBook where
  overrides : Overrides
  categories : Categories

namespace QueryBook

def effective (book : QueryBook) (language : Language) (category : Category) :
    EffectiveQuery :=
  match book.overrides.find? language category with
  | some query =>
      ⟨language, category, query, .override⟩
  | none =>
      if book.categories.defaultQueryOf category = "" then
        ⟨language, category, placeholderText language category, .placeholder⟩
      else
        ⟨language, category, book.categories.defaultQueryOf category, .categoryDefault⟩

/-- No effective query is empty. -/
theorem expression_effective_ne_empty (book : QueryBook) (language : Language)
    (category : Category) :
    (book.effective language category).expression ≠ "" := by
  unfold effective
  split
  next found => exact book.overrides.query_ne_empty found
  next =>
    split
    next => simp [placeholderText]
    next isDefined => exact isDefined

def ofLanguage (book : QueryBook) (language : Language) : List EffectiveQuery :=
  book.categories.list.map (book.effective language)

end QueryBook

end QueryPack
