import QueryPack.Proofs.KeyOccurrences
import QueryPack.Proofs.OverrideContents

namespace QueryPack

/-!
# Laying over is not going on with a list

Overlays form a monoid in which every element is idempotent, and look-up in an
overlay falls through to what lies below. Collecting one list of definitions
after another is nearly the same, but the second list can clear a key while an
overlay can only cover it. The two differ on exactly those keys that the second
list clears and the first one defines.
-/

/-- The last definition of a key is empty, so it clears the key. -/
def LastClears
    (definitions : List Override)
    (key : QueryKey) : Prop :=
  ∃ definition,
    IsLastOf Override.key definitions key definition ∧
      definition.query = ""

/-- Later definitions clear a key that the earlier ones define. -/
def Withdraws
    (earlier later : List Override)
    (key : QueryKey) : Prop :=
  LastClears later key ∧ (Overrides.ofList earlier).Defines key

namespace Overrides

theorem overlay_assoc
    (first second third : Overrides) :
    (first.overlay second).overlay third =
      first.overlay (second.overlay third) := by
  apply ext_find?
  intro language category
  simp only [find?_overlay, Option.or_assoc]

theorem empty_overlay
    (overrides : Overrides) :
    (∅ : Overrides).overlay overrides = overrides := by
  apply ext_find?
  intro language category
  rw [find?_overlay, find?_empty, Option.or_none]

theorem overlay_self
    (overrides : Overrides) :
    overrides.overlay overrides = overrides := by
  apply ext_find?
  intro language category
  rw [find?_overlay, Option.or_self]

/-- Among more definitions, the last one of a key decides, else the earlier ones do. -/
theorem find?_ofList_append
    (earlier later : List Override)
    (key : QueryKey) :
    (ofList (earlier ++ later)).find? key.language key.category =
      match (later.filter (·.key = key)).getLast? with
      | some definition =>
          if definition.query = "" then none else some definition.query
      | none =>
          (ofList earlier).find? key.language key.category := by
  rw [find?_ofList, find?_ofList, List.filter_append, List.getLast?_append]
  cases (later.filter (·.key = key)).getLast? with
  | none =>
      rfl
  | some definition =>
      simp [Option.filter]

/-- Later definitions that do not clear a key may as well be laid over. -/
theorem find?_ofList_append_of_not_lastClears
    {earlier later : List Override}
    {key : QueryKey}
    (notCleared : ¬ LastClears later key) :
    (ofList (earlier ++ later)).find? key.language key.category =
      ((ofList earlier).overlay (ofList later)).find?
        key.language key.category := by
  rw [find?_overlay, find?_ofList_append, find?_ofList later]
  cases isLast : (later.filter (·.key = key)).getLast? with
  | none =>
      rfl
  | some definition =>
      have notEmpty : definition.query ≠ "" := fun isEmpty =>
        notCleared ⟨definition, isLastOf_iff_getLast?.mpr isLast, isEmpty⟩
      simp [notEmpty, Option.filter]

/-- Going on with a list removes what it clears; an overlay cannot. -/
theorem find?_of_lastClears
    (earlier : List Override)
    {later : List Override}
    {key : QueryKey}
    (cleared : LastClears later key) :
    (ofList (earlier ++ later)).find? key.language key.category = none ∧
      ((ofList earlier).overlay (ofList later)).find?
          key.language key.category =
        (ofList earlier).find? key.language key.category := by
  obtain ⟨definition, isLast, isEmpty⟩ := cleared
  rw [isLastOf_iff_getLast?] at isLast
  rw [find?_overlay, find?_ofList_append, find?_ofList later, isLast]
  simp [isEmpty, Option.filter]

/-- Laying over differs from going on with a list on the withdrawn keys only. -/
theorem find?_ofList_append_eq_iff
    {earlier later : List Override}
    {key : QueryKey} :
    ((ofList earlier).overlay (ofList later)).find?
        key.language key.category =
      (ofList (earlier ++ later)).find? key.language key.category ↔
      ¬ Withdraws earlier later key := by
  by_cases cleared : LastClears later key
  · obtain ⟨removed, kept⟩ := find?_of_lastClears earlier cleared
    rw [removed, kept]
    simp [Withdraws, cleared, Defines]
  · rw [find?_ofList_append_of_not_lastClears cleared]
    simp [Withdraws, cleared]

end Overrides

/--
How overlays compose, and how they compare with going on with a list.

The comparison holds of a pair of lists as a whole and key by key: an overlay
keeps the query of a withdrawn key, a longer list has none for it, and on all
other keys both give the same.
-/
structure OverlayLaws : Prop where
  assoc :
    ∀ first second third : Overrides,
      (first.overlay second).overlay third =
        first.overlay (second.overlay third)
  empty_below :
    ∀ overrides : Overrides,
      Overrides.empty.overlay overrides = overrides
  empty_above :
    ∀ overrides : Overrides,
      overrides.overlay .empty = overrides
  idempotent :
    ∀ overrides : Overrides,
      overrides.overlay overrides = overrides
  find?_of_above :
    ∀ (below above : Overrides) language category query,
      above.find? language category = some query →
        (below.overlay above).find? language category = some query
  find?_of_gap :
    ∀ (below above : Overrides) language category,
      above.find? language category = none →
        (below.overlay above).find? language category =
          below.find? language category
  eq_ofList_append_iff :
    ∀ earlier later : List Override,
      (Overrides.ofList earlier).overlay (.ofList later) =
          .ofList (earlier ++ later) ↔
        ¬ ∃ key, Withdraws earlier later key
  of_withdraws :
    ∀ (earlier later : List Override) key,
      Withdraws earlier later key →
        (Overrides.ofList (earlier ++ later)).find?
            key.language key.category = none ∧
          ∃ query,
            (Overrides.ofList earlier).find? key.language key.category =
                some query ∧
              ((Overrides.ofList earlier).overlay (.ofList later)).find?
                key.language key.category = some query
  of_not_withdraws :
    ∀ (earlier later : List Override) key,
      ¬ Withdraws earlier later key →
        ((Overrides.ofList earlier).overlay (.ofList later)).find?
            key.language key.category =
          (Overrides.ofList (earlier ++ later)).find?
            key.language key.category

/-- Overrides obey the laws of overlays, whatever they hold. -/
theorem overlay_obeysLaws : OverlayLaws where
  assoc := Overrides.overlay_assoc
  empty_below := Overrides.empty_overlay
  empty_above := Overrides.overlay_empty
  idempotent := Overrides.overlay_self
  find?_of_above := by
    intro below above language category query found
    rw [Overrides.find?_overlay, found, Option.some_or]
  find?_of_gap := by
    intro below above language category notFound
    rw [Overrides.find?_overlay, notFound, Option.none_or]
  eq_ofList_append_iff := by
    intro earlier later
    rw [not_exists]
    constructor
    · intro same key
      rw [← Overrides.find?_ofList_append_eq_iff, same]
    · intro noneWithdrawn
      apply Overrides.ext_find?
      intro language category
      exact Overrides.find?_ofList_append_eq_iff.mpr
        (noneWithdrawn ⟨language, category⟩)
  of_withdraws := by
    rintro earlier later key ⟨cleared, isDefined⟩
    obtain ⟨removed, kept⟩ :=
      Overrides.find?_of_lastClears earlier cleared
    obtain ⟨query, found⟩ := Option.isSome_iff_exists.mp isDefined
    exact ⟨removed, query, found, kept.trans found⟩
  of_not_withdraws := by
    intro earlier later key
    exact Overrides.find?_ofList_append_eq_iff.mpr

/-- An empty definition takes back a query only if the lists are joined. -/
theorem overlay_obeysLaws_withdrawn :
    let key : QueryKey := ⟨⟨"go"⟩, ⟨"functions"⟩⟩
    let earlier : List Override :=
      [⟨key.language, key.category, "(func) @f"⟩]
    let later : List Override := [⟨key.language, key.category, ""⟩]
    Withdraws earlier later key ∧
      (Overrides.ofList (earlier ++ later)).find?
          key.language key.category = none ∧
      ((Overrides.ofList earlier).overlay (.ofList later)).Defines key ∧
      (Overrides.ofList earlier).overlay (.ofList later) ≠
        .ofList (earlier ++ later) := by
  intro key earlier later
  have withdraws : Withdraws earlier later key :=
    ⟨⟨⟨key.language, key.category, ""⟩, isLastOf_iff_getLast?.mpr rfl, rfl⟩,
      Option.isSome_iff_exists.mpr ⟨"(func) @f", by decide⟩⟩
  obtain ⟨removed, query, _, kept⟩ :=
    overlay_obeysLaws.of_withdraws earlier later key withdraws
  refine ⟨withdraws, removed, Option.isSome_iff_exists.mpr ⟨query, kept⟩, ?_⟩
  rw [Ne, overlay_obeysLaws.eq_ofList_append_iff]
  exact not_not.mpr ⟨key, withdraws⟩

end QueryPack
