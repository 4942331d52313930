import QueryPack.QueryKey

namespace QueryPack

/-!
# Language-specific queries

An `Overrides` holds the queries that replace a category's default for
one language. It is sparse, keeps its keys in order, and never holds an empty
query: setting a key to the empty text clears it.
-/

/-- One language-specific definition; an empty query means "no definition". -/
structure Override where
  language : Language
  category : Category
  query : String
  deriving Repr, DecidableEq

namespace Override

/-- The key that a definition is filed under. -/
def key (definition : Override) : QueryKey :=
  ⟨definition.language, definition.category⟩

end Override

/-- The non-empty language-specific queries, by key. -/
structure Overrides where
  queries : Std.ExtTreeMap QueryKey String
  query_ne_empty :
    ∀ {key : QueryKey} {query : String}, queries[key]? = some query → query ≠ ""

namespace Overrides

/-- No overrides. -/
def empty : Overrides where
  queries := ∅
  query_ne_empty := by
    intro key query found
    simp at found

instance : EmptyCollection Overrides := ⟨empty⟩

/-- File a query under its key; an empty one clears the key. -/
def insert (overrides : Overrides) (definition : Override) : Overrides :=
  if isEmpty : definition.query = "" then
    { queries := overrides.queries.erase definition.key
      query_ne_empty := by
        intro key query found
        rw [Std.ExtTreeMap.getElem?_erase] at found
        split at found
        · simp at found
        · exact overrides.query_ne_empty found }
  else
    { queries := overrides.queries.insert definition.key definition.query
      query_ne_empty := by
        intro key query found
        rw [Std.ExtTreeMap.getElem?_insert] at found
        split at found
        · exact Option.some.inj found ▸ isEmpty
        · exact overrides.query_ne_empty found }

/-- Lay others over these: where both hold a query, the other one counts. -/
def overlay (overrides other : Overrides) : Overrides where
  queries := overrides.queries ∪ other.queries
  query_ne_empty := by
    intro key query found
    rw [Std.ExtTreeMap.getElem?_union, Option.or_eq_some_iff] at found
    rcases found with inOther | inOverrides
    · exact other.query_ne_empty inOther
    · exact overrides.query_ne_empty inOverrides.2

/-- Insert definitions one after the other, starting from none. -/
def ofList (definitions : List Override) : Overrides :=
  definitions.foldl insert empty

/-- The query of a pair, if it has one of its own. -/
def find? (overrides : Overrides) (language : Language) (category : Category) :
    Option String :=
  overrides.queries[(⟨language, category⟩ : QueryKey)]?

/-- The definitions in key order. -/
def toList (overrides : Overrides) : List Override :=
  overrides.queries.toList.map fun (key, query) => ⟨key.language, key.category, query⟩

/-- The keys in order. -/
def keys (overrides : Overrides) : List QueryKey :=
  overrides.queries.keys

/-- The number of queries. -/
def size (overrides : Overrides) : Nat :=
  overrides.queries.size

/-- Whether there is no query. -/
def isEmpty (overrides : Overrides) : Bool :=
  overrides.queries.isEmpty

/-- The number of queries of one language. -/
def countOf (overrides : Overrides) (language : Language) : Nat :=
  overrides.keys.countP fun key => key.language = language

/-- Overrides that give the same queries are the same. -/
theorem ext_find? {first second : Overrides}
    (sameQueries : ∀ language category,
      first.find? language category = second.find? language category) :
    first = second := by
  have sameMap : first.queries = second.queries :=
    Std.ExtTreeMap.ext_getElem? fun key => sameQueries key.language key.category
  cases first
  cases second
  simp_all

@[simp] theorem find?_empty (language : Language) (category : Category) :
    (∅ : Overrides).find? language category = none :=
  Std.ExtTreeMap.getElem?_empty

/-- Inserting sets or clears exactly the definition's own key. -/
theorem find?_insert (overrides : Overrides) (definition : Override)
    (language : Language) (category : Category) :
    (overrides.insert definition).find? language category =
      if definition.language = language ∧ definition.category = category then
        if definition.query = "" then none else some definition.query
      else
        overrides.find? language category := by
  unfold insert find?
  split
  · simp [Std.ExtTreeMap.getElem?_erase, Override.key]
  · simp [Std.ExtTreeMap.getElem?_insert, Override.key]

/-- Where both hold a query, the one laid over counts. -/
theorem find?_overlay (overrides other : Overrides)
    (language : Language) (category : Category) :
    (overrides.overlay other).find? language category =
      (other.find? language category).or (overrides.find? language category) :=
  Std.ExtTreeMap.getElem?_union

end Overrides

/-- A definition that no artifact can show, with the reason why. -/
structure StrayOverride where
  key : QueryKey
  languageKnown : Bool
  categoryKnown : Bool
  deriving Repr, DecidableEq

namespace StrayOverride

/-- What the pack lacks of the key. -/
def reason (stray : StrayOverride) : String :=
  match stray.languageKnown, stray.categoryKnown with
  | false, false => "language and category not in catalog"
  | false, true => "language not in catalog"
  | true, _ => "category not in catalog"

end StrayOverride

namespace Overrides

/-- The keys that lie outside the pack, in key order. -/
def strays (overrides : Overrides) (languages : Languages)
    (categories : Categories) : List StrayOverride :=
  overrides.keys.filterMap fun key =>
    if languages.contains key.language && categories.contains key.category then
      none
    else
      some {
        key := key
        languageKnown := languages.contains key.language
        categoryKnown := categories.contains key.category
      }

end Overrides

end QueryPack
