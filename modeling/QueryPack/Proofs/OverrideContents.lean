import Mathlib.Data.Set.Card
import QueryPack.Proofs.ByteOrder
import QueryPack.Overrides

namespace QueryPack

/-!
# What overrides hold

Overrides list their definitions in key order, each key once. A definition is
listed exactly if it is what look-up gives under its key, so overrides are
determined by look-up, and their numbers count pairs that look-up finds.
Collecting definitions keeps the last one of each key, and an overlay adds what
was not defined below it.
-/

/-- Definitions are listed in key order, each key once. -/
def InKeyOrder (definitions : List Override) : Prop :=
  definitions.Pairwise fun first second => first.key.Precedes second.key

namespace InKeyOrder

variable {definitions others : List Override}

theorem nodup_keys
    (ordered : InKeyOrder definitions) :
    (definitions.map Override.key).Nodup := by
  rw [List.Nodup, List.pairwise_map]
  exact List.Pairwise.imp QueryKey.Precedes.ne ordered

theorem nodup
    (ordered : InKeyOrder definitions) :
    definitions.Nodup :=
  List.Nodup.of_map Override.key ordered.nodup_keys

theorem filter
    (ordered : InKeyOrder definitions)
    (kept : Override → Bool) :
    InKeyOrder (definitions.filter kept) :=
  List.Pairwise.filter kept ordered

/-- Which definitions there are determines how they are listed in key order. -/
theorem eq_of_mem_iff
    (ordered : InKeyOrder definitions)
    (othersOrdered : InKeyOrder others)
    (sameMembers :
      ∀ definition, definition ∈ definitions ↔ definition ∈ others) :
    definitions = others := by
  have permuted : definitions.Perm others :=
    (List.perm_ext_iff_of_nodup ordered.nodup othersOrdered.nodup).mpr
      sameMembers
  apply permuted.eq_of_pairwise ?_ ordered othersOrdered
  intro first second _ _ precedes precedesBack
  exact absurd precedesBack precedes.asymm

end InKeyOrder

/-- A definition as one that lies outside the pack. -/
def Override.stray
    (languages : Languages)
    (categories : Categories)
    (definition : Override) : StrayOverride where
  key := definition.key
  languageKnown := decide (definition.language ∈ languages.list)
  categoryKnown := decide (definition.category ∈ categories.list)

namespace Overrides

/-- Look-up finds a query for a key. -/
def Defines (overrides : Overrides) (key : QueryKey) : Prop :=
  (overrides.find? key.language key.category).isSome

theorem mem_keys
    {overrides : Overrides}
    {key : QueryKey} :
    key ∈ overrides.keys ↔ overrides.Defines key := by
  rw [keys, Std.ExtTreeMap.mem_keys, Std.ExtTreeMap.mem_iff_isSome_getElem?]
  rfl

theorem mem_toList
    {overrides : Overrides}
    {definition : Override} :
    definition ∈ overrides.toList ↔
      overrides.find? definition.language definition.category =
        some definition.query := by
  rw [find?, ← Std.ExtTreeMap.mem_toList_iff_getElem?_eq_some, toList,
    List.mem_map]
  constructor
  · rintro ⟨_, isEntry, rfl⟩
    exact isEntry
  · exact fun isEntry => ⟨_, isEntry, rfl⟩

/-- The keys are those of the listed definitions. -/
theorem map_key_toList
    (overrides : Overrides) :
    overrides.toList.map Override.key = overrides.keys := by
  rw [keys, ← Std.ExtTreeMap.map_fst_toList_eq_keys, toList, List.map_map]
  rfl

theorem nodup_keys
    (overrides : Overrides) :
    overrides.keys.Nodup :=
  Std.ExtTreeMap.nodup_keys

/-- Each key comes before the next, by the bytes of its names. -/
theorem pairwise_precedes_keys
    (overrides : Overrides) :
    overrides.keys.Pairwise QueryKey.Precedes :=
  Std.ExtTreeMap.ordered_keys.imp
    QueryKey.precedes_of_compare_eq_lt

theorem length_keys
    (overrides : Overrides) :
    overrides.keys.length = overrides.size :=
  Std.ExtTreeMap.length_keys

/-- The size is the number of keys that look-up finds a query for. -/
theorem encard_defines
    (overrides : Overrides) :
    {key | overrides.Defines key}.encard = overrides.size := by
  have isKeys :
      {key | overrides.Defines key} = overrides.keys.toFinset := by
    ext key
    simp [mem_keys]
  rw [isKeys, Set.encard_coe_eq_coe_finsetCard,
    List.toFinset_card_of_nodup overrides.nodup_keys, length_keys]

/-- The count of a language is the number of its categories with a query. -/
theorem encard_defines_language
    (overrides : Overrides)
    (language : Language) :
    {category | overrides.Defines ⟨language, category⟩}.encard =
      overrides.countOf language := by
  let ofLanguage :=
    overrides.keys.filter fun key => key.language = language
  have isCategories :
      {category | overrides.Defines ⟨language, category⟩} =
        (ofLanguage.map QueryKey.category).toFinset := by
    ext category
    simp only [Set.mem_ofPred_eq, List.coe_toFinset, List.mem_map,
      ofLanguage, List.mem_filter, mem_keys, decide_eq_true_eq]
    constructor
    · exact fun defines => ⟨_, ⟨defines, rfl⟩, rfl⟩
    · rintro ⟨key, ⟨defines, rfl⟩, rfl⟩
      exact defines
  have nodupCategories : (ofLanguage.map QueryKey.category).Nodup := by
    apply List.Nodup.map_on
    · rintro ⟨_, category⟩ isFirst ⟨_, _⟩ isSecond rfl
      simp only [ofLanguage, List.mem_filter, decide_eq_true_eq]
        at isFirst isSecond
      rw [isFirst.2, isSecond.2]
    · exact overrides.nodup_keys.filter _
  rw [isCategories, Set.encard_coe_eq_coe_finsetCard,
    List.toFinset_card_of_nodup nodupCategories, List.length_map,
    ← List.countP_eq_length_filter]
  rfl

/-- Each key is counted for exactly one language. -/
theorem sum_countOf
    (overrides : Overrides) :
    (((overrides.keys.map QueryKey.language).dedup.map
      overrides.countOf).sum) = overrides.size := by
  have isCount :
      overrides.countOf =
        fun language =>
          (overrides.keys.map QueryKey.language).count language := by
    funext language
    rw [countOf, List.count, List.countP_map]
    congr 1
  rw [isCount, List.sum_map_count_dedup_eq_length, List.length_map,
    length_keys]

theorem isEmpty_iff
    {overrides : Overrides} :
    overrides.isEmpty = true ↔ ∀ key, ¬ overrides.Defines key := by
  have sameEmpty : overrides.isEmpty = overrides.keys.isEmpty :=
    Std.ExtTreeMap.isEmpty_keys.symm
  simp only [sameEmpty, List.isEmpty_iff, List.eq_nil_iff_forall_not_mem,
    mem_keys]

theorem inKeyOrder_toList
    (overrides : Overrides) :
    InKeyOrder overrides.toList := by
  rw [InKeyOrder, ← List.pairwise_map (f := Override.key), map_key_toList]
  exact overrides.pairwise_precedes_keys

/-- The last definition of a key counts, and an empty one is none. -/
theorem find?_ofList
    (definitions : List Override)
    (language : Language)
    (category : Category) :
    (ofList definitions).find? language category =
      ((definitions.filter (·.key = ⟨language, category⟩)).getLast?.map
        Override.query).filter (· ≠ "") := by
  induction definitions using List.reverseRecOn with
  | nil =>
      exact find?_empty language category
  | append_singleton earlier last inductionHypothesis =>
      have isInsert :
          ofList (earlier ++ [last]) = (ofList earlier).insert last := by
        simp only [ofList, List.foldl_append, List.foldl_cons,
          List.foldl_nil]
      have isKey_iff :
          last.key = ⟨language, category⟩ ↔
            last.language = language ∧ last.category = category := by
        simp only [Override.key, QueryKey.mk.injEq]
      rw [isInsert, find?_insert, List.filter_append]
      by_cases isKey : last.key = ⟨language, category⟩
      · rw [if_pos (isKey_iff.mp isKey)]
        by_cases isEmpty : last.query = "" <;>
          simp [isKey, isEmpty, Option.filter]
      · rw [if_neg (isKey_iff.not.mp isKey), inductionHypothesis]
        simp [isKey]

/-- Of definitions with different keys, the non-empty ones are found. -/
theorem find?_ofList_eq_some_iff
    {definitions : List Override}
    (distinct : (definitions.map Override.key).Nodup)
    {language : Language}
    {category : Category}
    {query : String} :
    (ofList definitions).find? language category = some query ↔
      ⟨language, category, query⟩ ∈ definitions ∧ query ≠ "" := by
  simp only [find?_ofList, Option.filter_eq_some_iff, decide_eq_true_eq,
    and_congr_left_iff, Option.map_eq_some_iff]
  intro _
  constructor
  · rintro ⟨last, isLast, rfl⟩
    have isDefinition := List.mem_filter.mp (List.mem_of_getLast? isLast)
    have isKey : last.key = ⟨language, category⟩ := by
      simpa using isDefinition.2
    obtain ⟨rfl, rfl⟩ := QueryKey.mk.inj isKey
    exact isDefinition.1
  · intro isDefinition
    have isKept :
        ⟨language, category, query⟩ ∈
          definitions.filter (·.key = ⟨language, category⟩) := by
      simp [isDefinition, Override.key]
    obtain ⟨last, isLast⟩ :=
      Option.ne_none_iff_exists'.mp
        (mt List.getLast?_eq_none_iff.mp (List.ne_nil_of_mem isKept))
    have lastKept := List.mem_filter.mp (List.mem_of_getLast? isLast)
    have sameKey :
        last.key = (⟨language, category, query⟩ : Override).key := by
      simpa [Override.key] using lastKept.2
    have same : last = ⟨language, category, query⟩ :=
      List.inj_on_of_nodup_map distinct lastKept.1 isDefinition sameKey
    exact ⟨last, isLast, by rw [same]⟩

theorem overlay_empty
    (overrides : Overrides) :
    overrides.overlay ∅ = overrides := by
  apply ext_find?
  intro language category
  simp [find?_overlay]

/-- A listed definition of an overlay comes from above, or from below a gap. -/
theorem mem_toList_overlay
    {overrides other : Overrides}
    {definition : Override} :
    definition ∈ (overrides.overlay other).toList ↔
      definition ∈ other.toList ∨
        ¬ other.Defines definition.key ∧ definition ∈ overrides.toList := by
  simp only [mem_toList, find?_overlay, Option.or_eq_some_iff, Defines,
    Override.key, Option.not_isSome_iff_eq_none]

/-- An overlay adds the keys that were not defined below it. -/
theorem size_overlay
    (overrides other : Overrides) :
    (overrides.overlay other).size =
      overrides.size +
        (other.keys.filter (· ∉ overrides.keys)).length := by
  -- The new keys lie anywhere between the old ones, so only their number is told.
  have sameKeys :
      (overrides.overlay other).keys.Perm
        (overrides.keys ++ other.keys.filter (· ∉ overrides.keys)) := by
    apply (List.perm_ext_iff_of_nodup (nodup_keys _) ?_).mpr
    · intro key
      simp only [mem_keys, Defines, find?_overlay, Option.isSome_or,
        List.mem_append, List.mem_filter, decide_eq_true_eq, Bool.or_eq_true]
      tauto
    · apply List.Nodup.append overrides.nodup_keys
        (other.nodup_keys.filter _)
      intro key isKey isOther
      simp [isKey] at isOther
  rw [← length_keys, sameKeys.length_eq, List.length_append, length_keys]

/-- Of definitions with different keys, the non-empty ones are listed. -/
theorem mem_toList_ofList
    {definitions : List Override}
    (distinct : (definitions.map Override.key).Nodup)
    {definition : Override} :
    definition ∈ (ofList definitions).toList ↔
      definition ∈ definitions.filter (·.query ≠ "") := by
  simp only [mem_toList, find?_ofList_eq_some_iff distinct, List.mem_filter,
    decide_eq_true_eq]

/-- Definitions that are in key order are listed as they are. -/
theorem toList_ofList
    {definitions : List Override}
    (ordered : InKeyOrder definitions) :
    (ofList definitions).toList =
      definitions.filter (·.query ≠ "") := by
  apply (inKeyOrder_toList _).eq_of_mem_iff (ordered.filter _)
  intro definition
  exact mem_toList_ofList ordered.nodup_keys

theorem size_ofList
    {definitions : List Override}
    (distinct : (definitions.map Override.key).Nodup) :
    (ofList definitions).size =
      (definitions.filter (·.query ≠ "")).length := by
  have nodupDefinitions : definitions.Nodup :=
    List.Nodup.of_map Override.key distinct
  have sameDefinitions :
      (ofList definitions).toList.Perm
        (definitions.filter (·.query ≠ "")) := by
    apply (List.perm_ext_iff_of_nodup (inKeyOrder_toList _).nodup
      (nodupDefinitions.filter _)).mpr
    intro definition
    exact mem_toList_ofList distinct
  rw [← length_keys, ← map_key_toList, List.length_map,
    sameDefinitions.length_eq]

/-- The strays are the listed definitions outside the pack. -/
theorem strays_eq_map_filter
    (overrides : Overrides)
    (languages : Languages)
    (categories : Categories) :
    overrides.strays languages categories =
      (overrides.toList.filter fun definition =>
        definition.language ∉ languages.list ∨
          definition.category ∉ categories.list).map
        (Override.stray languages categories) := by
  rw [strays, ← map_key_toList, List.filterMap_map, ← List.filterMap_eq_map,
    List.filterMap_filter]
  congr 1
  funext definition
  by_cases isListed : definition.language ∈ languages.list <;>
    by_cases isListedCategory :
      definition.category ∈ categories.list <;>
      simp [Languages.contains, Categories.contains, Override.key,
        Override.stray, isListed, isListedCategory]

/-- Below an overlay, definitions of the pack add no strays. -/
theorem strays_overlay
    {overrides other : Overrides}
    {languages : Languages}
    {categories : Categories}
    (ofPack :
      ∀ definition ∈ overrides.toList,
        definition.language ∈ languages.list ∧
          definition.category ∈ categories.list) :
    (overrides.overlay other).strays languages categories =
      other.strays languages categories := by
  rw [strays_eq_map_filter, strays_eq_map_filter]
  congr 1
  apply ((inKeyOrder_toList _).filter _).eq_of_mem_iff
    ((inKeyOrder_toList _).filter _)
  intro definition
  simp only [List.mem_filter, mem_toList_overlay, decide_eq_true_eq]
  constructor
  · rintro ⟨fromAbove | ⟨_, fromBelow⟩, isOutside⟩
    · exact ⟨fromAbove, isOutside⟩
    · have isOfPack := ofPack definition fromBelow
      tauto
  · rintro ⟨fromAbove, isOutside⟩
    exact ⟨Or.inl fromAbove, isOutside⟩

end Overrides

end QueryPack
