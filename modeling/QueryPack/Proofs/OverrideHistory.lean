import QueryPack.Overrides.Builtin
import QueryPack.Proofs.OverrideContents

namespace QueryPack

/-!
# Overrides after any history

Overrides come about by collecting definitions, inserting one and laying others
over them. Look-up gives what replaying this history gives, and no way of
building them leaves an empty query behind. Histories that replay alike lead to
the same overrides.
-/

/-- How overrides have come about. -/
inductive History where
  | builtin
  | collected (definitions : List Override)
  | inserted (history : History) (definition : Override)
  | overlaid (history other : History)

/-- The queries that a key may have, without an order or a count of them. -/
abbrev Lookup := QueryKey → Option String

namespace Lookup

/-- A definition sets its own key, or clears it if it is empty. -/
def revised (lookup : Lookup) (definition : Override) : Lookup :=
  fun key =>
    if key = definition.key then
      if definition.query = "" then none else some definition.query
    else
      lookup key

/-- Another look-up counts wherever it gives a query. -/
def overlaid (lookup other : Lookup) : Lookup :=
  fun key =>
    match other key with
    | some query => some query
    | none => lookup key

end Lookup

/-- Definitions as they are stored, without any check of what they hold. -/
abbrev StoredQueries := Std.ExtTreeMap QueryKey String

/-- Store a definition; an empty one removes what is stored under its key. -/
def StoredQueries.revised
    (stored : StoredQueries)
    (definition : Override) : StoredQueries :=
  if definition.query = "" then
    stored.erase definition.key
  else
    stored.insert definition.key definition.query

namespace History

/-- The overrides that a history leads to. -/
def overrides : History → Overrides
  | builtin => .builtin
  | collected definitions => .ofList definitions
  | inserted history definition => history.overrides.insert definition
  | overlaid history other => history.overrides.overlay other.overrides

/-- What each key has after a history has been replayed. -/
def replay : History → Lookup
  | builtin => builtinOverrides.foldl .revised fun _ => none
  | collected definitions => definitions.foldl .revised fun _ => none
  | inserted history definition => history.replay.revised definition
  | overlaid history other => history.replay.overlaid other.replay

/-- What is stored after a history; nothing sorts out empty queries here. -/
def stored : History → StoredQueries
  | builtin => builtinOverrides.foldl StoredQueries.revised ∅
  | collected definitions => definitions.foldl StoredQueries.revised ∅
  | inserted history definition =>
      StoredQueries.revised history.stored definition
  | overlaid history other => history.stored ∪ other.stored

end History

namespace Overrides

/-- What look-up gives for each key. -/
def lookup (overrides : Overrides) : Lookup :=
  fun key => overrides.find? key.language key.category

theorem lookup_empty :
    (∅ : Overrides).lookup = fun _ => none := by
  funext key
  exact find?_empty key.language key.category

/-- Inserting a definition revises look-up. -/
theorem lookup_insert
    (overrides : Overrides)
    (definition : Override) :
    (overrides.insert definition).lookup =
      overrides.lookup.revised definition := by
  funext key
  have sameKey_iff :
      definition.language = key.language ∧
          definition.category = key.category ↔
        key = definition.key := by
    obtain ⟨language, category⟩ := key
    simp only [Override.key, QueryKey.mk.injEq]
    exact and_congr eq_comm eq_comm
  simp only [lookup, find?_insert, Lookup.revised, sameKey_iff]

/-- Laying others over overrides overlays look-up. -/
theorem lookup_overlay
    (overrides other : Overrides) :
    (overrides.overlay other).lookup =
      overrides.lookup.overlaid other.lookup := by
  funext key
  simp only [lookup, find?_overlay, Lookup.overlaid]
  cases other.find? key.language key.category <;> rfl

theorem lookup_foldl_insert
    (definitions : List Override)
    (overrides : Overrides) :
    (definitions.foldl insert overrides).lookup =
      definitions.foldl Lookup.revised overrides.lookup := by
  induction definitions generalizing overrides with
  | nil =>
      rfl
  | cons definition rest inductionHypothesis =>
      simp only [List.foldl_cons, inductionHypothesis, lookup_insert]

theorem lookup_ofList
    (definitions : List Override) :
    (ofList definitions).lookup =
      definitions.foldl Lookup.revised fun _ => none := by
  rw [← lookup_empty]
  exact lookup_foldl_insert definitions ∅

theorem queries_insert
    (overrides : Overrides)
    (definition : Override) :
    (overrides.insert definition).queries =
      StoredQueries.revised overrides.queries definition := by
  unfold insert StoredQueries.revised
  split <;> rfl

theorem queries_foldl_insert
    (definitions : List Override)
    (overrides : Overrides) :
    (definitions.foldl insert overrides).queries =
      definitions.foldl StoredQueries.revised overrides.queries := by
  induction definitions generalizing overrides with
  | nil =>
      rfl
  | cons definition rest inductionHypothesis =>
      simp only [List.foldl_cons, inductionHypothesis, queries_insert]

end Overrides

namespace History

/-- Look-up after a history gives what replaying it gives. -/
theorem lookup_overrides
    (history : History) :
    history.overrides.lookup = history.replay := by
  induction history with
  | builtin =>
      exact Overrides.lookup_ofList builtinOverrides
  | collected definitions =>
      exact Overrides.lookup_ofList definitions
  | inserted history definition inductionHypothesis =>
      simp only [overrides, replay, Overrides.lookup_insert,
        inductionHypothesis]
  | overlaid history other historyReplayed otherReplayed =>
      simp only [overrides, replay, Overrides.lookup_overlay,
        historyReplayed, otherReplayed]

/-- What a history stores is what its overrides hold, so no query is empty. -/
theorem queries_overrides
    (history : History) :
    history.overrides.queries = history.stored := by
  induction history with
  | builtin =>
      exact Overrides.queries_foldl_insert builtinOverrides ∅
  | collected definitions =>
      exact Overrides.queries_foldl_insert definitions ∅
  | inserted history definition inductionHypothesis =>
      simp only [overrides, stored, Overrides.queries_insert,
        inductionHypothesis]
  | overlaid history other historyStored otherStored =>
      simp only [overrides, stored, Overrides.overlay, historyStored,
        otherStored]

end History

/--
What is known of overrides that have come about by a history.

Whatever is stored is not empty; the keys are in order, without repetition;
look-up replays the history; and all numbers count the keys that are defined.
Other overrides with the same look-up are the same.
-/
structure HoldsReplay (history : History) (overrides : Overrides) : Prop where
  stored_eq :
    overrides.queries = history.stored
  query_ne_empty :
    ∀ (key : QueryKey) (query : String),
      history.stored[key]? = some query → query ≠ ""
  keys_ordered :
    (overrides.toList.map Override.key).Pairwise QueryKey.Precedes
  keys_nodup :
    (overrides.toList.map Override.key).Nodup
  mem_toList_iff :
    ∀ definition,
      definition ∈ overrides.toList ↔
        history.replay definition.key = some definition.query
  find?_eq :
    ∀ language category,
      overrides.find? language category =
        history.replay ⟨language, category⟩
  find?_eq_filter :
    ∀ language category,
      overrides.find? language category =
        history.stored[(⟨language, category⟩ : QueryKey)]?.filter (· ≠ "")
  size_eq :
    overrides.size =
      {key | (history.replay key).isSome}.encard
  isEmpty_iff :
    overrides.isEmpty = true ↔ ∀ key, history.replay key = none
  countOf_eq :
    ∀ language,
      overrides.countOf language =
        {category | (history.replay ⟨language, category⟩).isSome}.encard
  sum_countOf :
    ((overrides.keys.map QueryKey.language).dedup.map
      overrides.countOf).sum = overrides.size
  eq_iff :
    ∀ other : History,
      other.overrides = overrides ↔
        ∀ language category,
          other.overrides.find? language category =
            overrides.find? language category

/-- Whatever the history of overrides, they hold what replaying it gives. -/
theorem overrides_holdReplay
    (history : History) :
    HoldsReplay history history.overrides := by
  have replayed := history.lookup_overrides
  have defines_iff (key : QueryKey) :
      history.overrides.Defines key ↔ (history.replay key).isSome := by
    rw [← replayed]
    rfl
  exact
    { stored_eq := history.queries_overrides
      query_ne_empty := by
        intro key query found
        rw [← history.queries_overrides] at found
        exact history.overrides.query_ne_empty found
      keys_ordered := by
        rw [Overrides.map_key_toList]
        exact history.overrides.pairwise_precedes_keys
      keys_nodup := by
        rw [Overrides.map_key_toList]
        exact history.overrides.nodup_keys
      mem_toList_iff := by
        intro definition
        rw [Overrides.mem_toList, ← replayed]
        rfl
      find?_eq := by
        intro language category
        rw [← replayed]
        rfl
      find?_eq_filter := by
        intro language category
        rw [← history.queries_overrides]
        apply Option.ext
        intro query
        simp only [Option.filter_eq_some_iff, decide_eq_true_eq]
        exact ⟨fun found => ⟨found, history.overrides.query_ne_empty found⟩,
          And.left⟩
      size_eq := by
        simp only [← history.overrides.encard_defines, defines_iff]
      isEmpty_iff := by
        simp only [Overrides.isEmpty_iff, defines_iff,
          Option.not_isSome_iff_eq_none]
      countOf_eq := by
        intro language
        simp only [← history.overrides.encard_defines_language,
          defines_iff]
      sum_countOf := history.overrides.sum_countOf
      eq_iff := by
        intro other
        exact ⟨fun same _ _ => same ▸ rfl, Overrides.ext_find?⟩ }

/--
A query that is replaced by an overlay and one that is cleared again leave the
same overrides as collecting what remains in another order.
-/
theorem overrides_holdReplay_reordered :
    let functions : Override := ⟨⟨"go"⟩, ⟨"functions"⟩, "(func) @f"⟩
    let classes : Override := ⟨⟨"rust"⟩, ⟨"classes"⟩, "(struct) @c"⟩
    let direct : History := .collected [functions, classes]
    let roundabout : History :=
      .overlaid
        (.inserted
          (.collected
            [classes, ⟨⟨"go"⟩, ⟨"generics"⟩, "(type) @g"⟩,
              ⟨⟨"go"⟩, ⟨"functions"⟩, "(old) @f"⟩])
          ⟨⟨"go"⟩, ⟨"generics"⟩, ""⟩)
        (.collected [functions])
    direct.overrides = roundabout.overrides ∧
      direct.overrides.size = 2 := by
  intro functions classes direct roundabout
  have directHolds := overrides_holdReplay direct
  have roundaboutHolds := overrides_holdReplay roundabout
  have sameReplay (key : QueryKey) :
      direct.replay key = roundabout.replay key := by
    simp only [direct, roundabout, functions, classes, History.replay,
      Lookup.revised, Lookup.overlaid, List.foldl_cons, List.foldl_nil,
      Override.key]
    grind
  constructor
  · apply (roundaboutHolds.eq_iff direct).mpr
    intro language category
    rw [directHolds.find?_eq, roundaboutHolds.find?_eq, sameReplay]
  · decide

end QueryPack
