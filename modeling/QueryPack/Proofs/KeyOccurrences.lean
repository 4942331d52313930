import QueryPack.FirstOccurrences

namespace QueryPack

/-!
# The first and the last entry of a key

A list may name a key more than once. Which of its entries counts is told by
where it stands: before all others of the key, or after them.
-/

/-- An entry of a key, with no other one of this key before it. -/
def IsFirstOf
    (key : α → κ)
    (entries : List α)
    (value : κ)
    (entry : α) : Prop :=
  key entry = value ∧
    ∃ earlier later,
      entries = earlier ++ entry :: later ∧
        ∀ other ∈ earlier, key other ≠ value

/-- An entry of a key, with no other one of this key after it. -/
def IsLastOf
    (key : α → κ)
    (entries : List α)
    (value : κ)
    (entry : α) : Prop :=
  key entry = value ∧
    ∃ earlier later,
      entries = earlier ++ entry :: later ∧
        ∀ other ∈ later, key other ≠ value

/-- The last entry is the first one of the reversed list. -/
theorem isLastOf_iff_isFirstOf_reverse
    {key : α → κ}
    {entries : List α}
    {value : κ}
    {entry : α} :
    IsLastOf key entries value entry ↔
      IsFirstOf key entries.reverse value entry := by
  apply and_congr_right
  intro _
  constructor
  · rintro ⟨earlier, later, rfl, noneLater⟩
    refine ⟨later.reverse, earlier.reverse, by simp, ?_⟩
    simpa using noneLater
  · rintro ⟨later, earlier, reversed, noneLater⟩
    refine ⟨earlier.reverse, later.reverse, ?_, by simpa using noneLater⟩
    rw [List.reverse_eq_iff] at reversed
    simp [reversed]

section Searching

variable
    [DecidableEq κ]
    {key : α → κ}
    {entries : List α}
    {value : κ}
    {entry : α}

theorem isFirstOf_iff_find? :
    IsFirstOf key entries value entry ↔
      entries.find? (fun other => key other = value) = some entry := by
  simp [IsFirstOf, List.find?_eq_some_iff_append]

theorem isLastOf_iff_getLast? :
    IsLastOf key entries value entry ↔
      (entries.filter (fun other => key other = value)).getLast? =
        some entry := by
  rw [isLastOf_iff_isFirstOf_reverse, isFirstOf_iff_find?,
    ← List.head?_filter, List.filter_reverse,
    ← List.getLast?_eq_head?_reverse]

/-- Dropping repetitions keeps the first entry of a key that is not known yet. -/
theorem find?_firstOccurrencesFrom
    {seen : List κ}
    (unseen : value ∉ seen) :
    (firstOccurrencesFrom key seen entries).find?
        (fun other => key other = value) =
      entries.find? (fun other => key other = value) := by
  induction entries generalizing seen with
  | nil =>
      rfl
  | cons head rest inductionHypothesis =>
      by_cases isValue : key head = value
      · subst isValue
        simp [firstOccurrencesFrom, unseen]
      · by_cases known : key head ∈ seen
        · simp [firstOccurrencesFrom, known, isValue,
            inductionHypothesis unseen]
        · have stillUnseen : value ∉ key head :: seen := by
            simp [unseen, Ne.symm isValue]
          simp [firstOccurrencesFrom, known, isValue,
            inductionHypothesis stillUnseen]

/-- The first entry of a key stays its first entry when repetitions are dropped. -/
theorem isFirstOf_firstOccurrences :
    IsFirstOf key (firstOccurrences key entries) value entry ↔
      IsFirstOf key entries value entry := by
  rw [isFirstOf_iff_find?, isFirstOf_iff_find?, firstOccurrences,
    find?_firstOccurrencesFrom List.not_mem_nil]

end Searching

end QueryPack
