namespace QueryPack

/-!
# First and later occurrences in a list

A pack keeps the first entry of each name and drops the repetitions. The two
halves of that decision are separate functions over one traversal order:
`firstOccurrences` keeps, `laterOccurrences` drops, and together they account
for every entry.
-/

/-- The entries whose key is neither in `seen` nor the key of an earlier entry. -/
def firstOccurrencesFrom [DecidableEq κ] (key : α → κ) : List κ → List α → List α
  | _, [] => []
  | seen, entry :: rest =>
      if key entry ∈ seen then
        firstOccurrencesFrom key seen rest
      else
        entry :: firstOccurrencesFrom key (key entry :: seen) rest

/-- The entries whose key is in `seen` or the key of an earlier entry. -/
def laterOccurrencesFrom [DecidableEq κ] (key : α → κ) : List κ → List α → List α
  | _, [] => []
  | seen, entry :: rest =>
      if key entry ∈ seen then
        entry :: laterOccurrencesFrom key seen rest
      else
        laterOccurrencesFrom key (key entry :: seen) rest

/-- The first entry of each key, in order. -/
def firstOccurrences [DecidableEq κ] (key : α → κ) (entries : List α) : List α :=
  firstOccurrencesFrom key [] entries

/-- The entries that repeat the key of an earlier one, in order. -/
def laterOccurrences [DecidableEq κ] (key : α → κ) (entries : List α) : List α :=
  laterOccurrencesFrom key [] entries

/-- A kept entry is one of the given entries, and its key was not seen before. -/
theorem mem_of_mem_firstOccurrencesFrom [DecidableEq κ] {key : α → κ}
    {seen : List κ} {entries : List α} {entry : α}
    (kept : entry ∈ firstOccurrencesFrom key seen entries) :
    entry ∈ entries ∧ key entry ∉ seen := by
  induction entries generalizing seen with
  | nil =>
      simp [firstOccurrencesFrom] at kept
  | cons head rest inductionHypothesis =>
      by_cases known : key head ∈ seen
      · simp only [firstOccurrencesFrom, known, if_true] at kept
        have inRest := inductionHypothesis kept
        exact ⟨List.mem_cons_of_mem _ inRest.1, inRest.2⟩
      · simp only [firstOccurrencesFrom, known, if_false, List.mem_cons] at kept
        rcases kept with isHead | kept
        · subst isHead
          exact ⟨List.mem_cons_self, known⟩
        · have inRest := inductionHypothesis kept
          exact ⟨List.mem_cons_of_mem _ inRest.1,
            fun inSeen => inRest.2 (List.mem_cons_of_mem _ inSeen)⟩

/-- No two kept entries share a key. -/
theorem nodup_firstOccurrencesFrom [DecidableEq κ] (key : α → κ)
    (seen : List κ) (entries : List α) :
    ((firstOccurrencesFrom key seen entries).map key).Nodup := by
  induction entries generalizing seen with
  | nil =>
      simp [firstOccurrencesFrom]
  | cons head rest inductionHypothesis =>
      by_cases known : key head ∈ seen
      · simpa only [firstOccurrencesFrom, known, if_true] using inductionHypothesis seen
      · simp only [firstOccurrencesFrom, known, if_false, List.map_cons, List.nodup_cons]
        refine ⟨?_, inductionHypothesis _⟩
        intro repeated
        obtain ⟨other, kept, sameKey⟩ := List.mem_map.1 repeated
        exact (mem_of_mem_firstOccurrencesFrom kept).2 (sameKey ▸ List.mem_cons_self)

/-- Every entry is either kept or dropped. -/
theorem firstOccurrencesFrom_append_laterOccurrencesFrom_perm [DecidableEq κ]
    (key : α → κ) (seen : List κ) (entries : List α) :
    (firstOccurrencesFrom key seen entries ++ laterOccurrencesFrom key seen entries).Perm
      entries := by
  induction entries generalizing seen with
  | nil =>
      exact List.Perm.refl _
  | cons head rest inductionHypothesis =>
      by_cases known : key head ∈ seen
      · simp only [firstOccurrencesFrom, laterOccurrencesFrom, known, if_true]
        exact List.perm_middle.trans ((inductionHypothesis seen).cons head)
      · simp only [firstOccurrencesFrom, laterOccurrencesFrom, known, if_false,
          List.cons_append]
        exact (inductionHypothesis (key head :: seen)).cons head

/-- First and later occurrences together are the entries. -/
theorem firstOccurrences_append_laterOccurrences_perm [DecidableEq κ]
    (key : α → κ) (entries : List α) :
    (firstOccurrences key entries ++ laterOccurrences key entries).Perm entries :=
  firstOccurrencesFrom_append_laterOccurrencesFrom_perm key [] entries

/-- No two first occurrences share a key. -/
theorem nodup_firstOccurrences [DecidableEq κ] (key : α → κ) (entries : List α) :
    ((firstOccurrences key entries).map key).Nodup :=
  nodup_firstOccurrencesFrom key [] entries

end QueryPack
