import QueryPack.EffectiveQuery
import QueryPack.Proofs.KeyOccurrences
import QueryPack.Proofs.OverrideContents

namespace QueryPack

/-!
# The fallback chain, told from the lists

A query is decided by two lists that may both repeat themselves: definitions,
of which the last one of a pair counts and an empty one is none, and
categories, of which the first one of a name counts whether or not its default
is empty. Whatever the lists hold and whoever asks, exactly one of override,
default and placeholder answers.
-/

/-- The last definition of a key has this query, which is not empty. -/
def LastDefines
    (definitions : List Override)
    (key : QueryKey)
    (query : String) : Prop :=
  ∃ definition,
    IsLastOf Override.key definitions key definition ∧
      definition.query = query ∧
      query ≠ ""

/-- The first entry of a category has this default, which is not empty. -/
def FirstProvides
    (entries : List ListedCategory)
    (category : Category)
    (query : String) : Prop :=
  ∃ entry,
    IsFirstOf ListedCategory.category entries category entry ∧
      entry.defaultQuery = query ∧
      query ≠ ""

/-- Look-up in collected definitions finds what the last one of a key gives. -/
theorem Overrides.find?_ofList_eq_some_iff_lastDefines
    {definitions : List Override}
    {key : QueryKey}
    {query : String} :
    (ofList definitions).find? key.language key.category = some query ↔
      LastDefines definitions key query := by
  rw [find?_ofList]
  simp only [Option.filter_eq_some_iff, Option.map_eq_some_iff,
    decide_eq_true_eq, LastDefines, isLastOf_iff_getLast?]
  constructor
  · rintro ⟨⟨definition, isLast, rfl⟩, notEmpty⟩
    exact ⟨definition, isLast, rfl, notEmpty⟩
  · rintro ⟨definition, isLast, rfl, notEmpty⟩
    exact ⟨⟨definition, isLast, rfl⟩, notEmpty⟩

/-- A default that is not empty is that of the first entry of its category. -/
theorem Categories.defaultQueryOf_ofEntries_eq_iff
    {entries : List ListedCategory}
    {category : Category}
    {query : String} :
    (ofEntries entries).defaultQueryOf category = query ∧ query ≠ "" ↔
      FirstProvides entries category query := by
  simp only [FirstProvides,
    ← @isFirstOf_firstOccurrences _ _ _ _ entries, isFirstOf_iff_find?]
  rw [defaultQueryOf, ofEntries]
  cases (firstOccurrences ListedCategory.category entries).find?
      (fun entry => entry.category = category) with
  | none =>
      simp [eq_comm]
  | some entry =>
      simp

/-- A key has at most one last definition. -/
theorem LastDefines.unique
    {definitions : List Override}
    {key : QueryKey}
    {query other : String}
    (defines : LastDefines definitions key query)
    (definesOther : LastDefines definitions key other) :
    query = other := by
  rw [← Overrides.find?_ofList_eq_some_iff_lastDefines] at defines definesOther
  exact Option.some.inj (defines.symm.trans definesOther)

/-- A category has at most one first default. -/
theorem FirstProvides.unique
    {entries : List ListedCategory}
    {category : Category}
    {query other : String}
    (provides : FirstProvides entries category query)
    (providesOther : FirstProvides entries category other) :
    query = other := by
  rw [← Categories.defaultQueryOf_ofEntries_eq_iff] at provides providesOther
  exact provides.1.symm.trans providesOther.1

namespace QueryBook

/-- Which of the three layers answers, and with what. -/
theorem effective_cases
    (book : QueryBook)
    (language : Language)
    (category : Category) :
    (∃ query,
      book.overrides.find? language category = some query ∧
        book.effective language category =
          ⟨language, category, query, .override⟩) ∨
      (book.overrides.find? language category = none ∧
        book.categories.defaultQueryOf category ≠ "" ∧
        book.effective language category =
          ⟨language, category, book.categories.defaultQueryOf category,
            .categoryDefault⟩) ∨
      (book.overrides.find? language category = none ∧
        book.categories.defaultQueryOf category = "" ∧
        book.effective language category =
          ⟨language, category, placeholderText language category,
            .placeholder⟩) := by
  unfold effective
  cases book.overrides.find? language category with
  | some query =>
      exact Or.inl ⟨query, rfl, rfl⟩
  | none =>
      by_cases noDefault : book.categories.defaultQueryOf category = ""
      · exact Or.inr (Or.inr ⟨rfl, noDefault, if_pos noDefault⟩)
      · exact Or.inr (Or.inl ⟨rfl, noDefault, if_neg noDefault⟩)

end QueryBook

/--
What a pair gets from lists of definitions and of categories.

Each layer answers exactly if those before it have nothing to say, and the
placeholder names the pair that was asked for.
-/
structure FallsBack
    (definitions : List Override)
    (entries : List ListedCategory)
    (language : Language)
    (category : Category)
    (effective : EffectiveQuery) : Prop where
  language_eq :
    effective.language = language
  category_eq :
    effective.category = category
  expression_ne_empty :
    effective.expression ≠ ""
  override_iff :
    ∀ query,
      effective.source = .override ∧ effective.expression = query ↔
        LastDefines definitions ⟨language, category⟩ query
  default_iff :
    ∀ query,
      effective.source = .categoryDefault ∧ effective.expression = query ↔
        (∀ other, ¬ LastDefines definitions ⟨language, category⟩ other) ∧
          FirstProvides entries category query
  placeholder_iff :
    ∀ query,
      effective.source = .placeholder ∧ effective.expression = query ↔
        (∀ other, ¬ LastDefines definitions ⟨language, category⟩ other) ∧
          (∀ other, ¬ FirstProvides entries category other) ∧
          query = "; No " ++ category.name ++ " queries for " ++ language.name

namespace FallsBack

variable
    {definitions : List Override}
    {entries : List ListedCategory}
    {language : Language}
    {category : Category}
    {query : String}

/-- The last definition answers if it is not empty. -/
theorem of_override
    (defines : LastDefines definitions ⟨language, category⟩ query) :
    FallsBack definitions entries language category
      ⟨language, category, query, .override⟩ where
  language_eq := rfl
  category_eq := rfl
  expression_ne_empty := by
    obtain ⟨_, _, _, notEmpty⟩ := defines
    exact notEmpty
  override_iff other := by
    constructor
    · rintro ⟨_, rfl⟩
      exact defines
    · exact fun definesOther => ⟨rfl, defines.unique definesOther⟩
  default_iff other := by
    constructor
    · rintro ⟨⟨⟩, _⟩
    · rintro ⟨undefined, _⟩
      exact absurd defines (undefined query)
  placeholder_iff other := by
    constructor
    · rintro ⟨⟨⟩, _⟩
    · rintro ⟨undefined, _⟩
      exact absurd defines (undefined query)

/-- Without a definition the first default answers if it is not empty. -/
theorem of_default
    (undefined :
      ∀ other, ¬ LastDefines definitions ⟨language, category⟩ other)
    (provides : FirstProvides entries category query) :
    FallsBack definitions entries language category
      ⟨language, category, query, .categoryDefault⟩ where
  language_eq := rfl
  category_eq := rfl
  expression_ne_empty := by
    obtain ⟨_, _, _, notEmpty⟩ := provides
    exact notEmpty
  override_iff other := by
    constructor
    · rintro ⟨⟨⟩, _⟩
    · exact fun defines => absurd defines (undefined other)
  default_iff other := by
    constructor
    · rintro ⟨_, rfl⟩
      exact ⟨undefined, provides⟩
    · rintro ⟨_, providesOther⟩
      exact ⟨rfl, provides.unique providesOther⟩
  placeholder_iff other := by
    constructor
    · rintro ⟨⟨⟩, _⟩
    · rintro ⟨_, unprovided, _⟩
      exact absurd provides (unprovided query)

/-- Without either the placeholder answers. -/
theorem of_neither
    (undefined :
      ∀ other, ¬ LastDefines definitions ⟨language, category⟩ other)
    (unprovided : ∀ other, ¬ FirstProvides entries category other) :
    FallsBack definitions entries language category
      ⟨language, category, placeholderText language category,
        .placeholder⟩ where
  language_eq := rfl
  category_eq := rfl
  expression_ne_empty := by
    simp [placeholderText]
  override_iff other := by
    constructor
    · rintro ⟨⟨⟩, _⟩
    · exact fun defines => absurd defines (undefined other)
  default_iff other := by
    constructor
    · rintro ⟨⟨⟩, _⟩
    · rintro ⟨_, provides⟩
      exact absurd provides (unprovided other)
  placeholder_iff other := by
    constructor
    · rintro ⟨_, rfl⟩
      exact ⟨undefined, unprovided, rfl⟩
    · rintro ⟨_, _, rfl⟩
      exact ⟨rfl, rfl⟩

end FallsBack

/--
Whatever definitions are collected and whatever entries a pack is built from,
every pair falls back from the last definition to the first default to the
placeholder.
-/
theorem effective_fallsBack
    (definitions : List Override)
    (entries : List ListedCategory)
    (language : Language)
    (category : Category) :
    FallsBack definitions entries language category
      (QueryBook.effective ⟨.ofList definitions, .ofEntries entries⟩
        language category) := by
  have undefined
      (notFound :
        (Overrides.ofList definitions).find? language category = none)
      (other : String) :
      ¬ LastDefines definitions ⟨language, category⟩ other := by
    simp [← Overrides.find?_ofList_eq_some_iff_lastDefines, notFound]
  rcases QueryBook.effective_cases
      ⟨.ofList definitions, .ofEntries entries⟩ language category with
    ⟨query, isFound, answer⟩ | ⟨notFound, isDefault, answer⟩ |
      ⟨notFound, noDefault, answer⟩
  · rw [answer]
    exact .of_override
      (Overrides.find?_ofList_eq_some_iff_lastDefines.mp isFound)
  · rw [answer]
    exact .of_default (undefined notFound)
      (Categories.defaultQueryOf_ofEntries_eq_iff.mp ⟨rfl, isDefault⟩)
  · rw [answer]
    apply FallsBack.of_neither (undefined notFound)
    intro other provides
    obtain ⟨rfl, notEmpty⟩ :=
      Categories.defaultQueryOf_ofEntries_eq_iff.mpr provides
    exact notEmpty noDefault

/-- An empty first default hides the later one of the same category. -/
example :
    (QueryBook.effective
      ⟨.ofList
        [⟨⟨"go"⟩, ⟨"functions"⟩, "(func) @f"⟩, ⟨⟨"go"⟩, ⟨"functions"⟩, ""⟩],
        .ofEntries [⟨⟨"functions"⟩, ""⟩, ⟨⟨"functions"⟩, "(fn) @f"⟩]⟩
      ⟨"go"⟩ ⟨"functions"⟩) =
      ⟨⟨"go"⟩, ⟨"functions"⟩, "; No functions queries for go",
        .placeholder⟩ := by
  decide

end QueryPack
