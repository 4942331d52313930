import QueryPack.Notice
import QueryPack.Proofs.KeyOccurrences

namespace QueryPack

/-!
# What a pack keeps of the entries it is built from

The languages and the categories of a pack are built from lists that may name a
key more than once. Kept is what stands first with its key; every other entry is
left out with one warning. Building again from what was kept changes nothing,
and what further entries add does not depend on what was left out before.
-/

section Lists

variable
    [DecidableEq κ]

/-- The entries with a key that no earlier entry has. -/
def openingEntries
    (key : α → κ)
    (entries : List α) : List α :=
  (entries.zipIdx.filter fun (entry, place) =>
    key entry ∉ (entries.take place).map key).map Prod.fst

/-- The entries with a key that an earlier entry has. -/
def repeatingEntries
    (key : α → κ)
    (entries : List α) : List α :=
  (entries.zipIdx.filter fun (entry, place) =>
    key entry ∈ (entries.take place).map key).map Prod.fst

variable
    {key : α → κ}
    {entries : List α}

/--
The keys seen at a place are those of the entries before it, so an entry is kept
or left out by what stands before it.
-/
theorem occurrencesFrom_eq_of_seen
    (before : List α)
    {rest : List α}
    {seen : List κ}
    (seenBefore : ∀ value, value ∈ seen ↔ value ∈ before.map key) :
    firstOccurrencesFrom key seen rest =
        ((rest.zipIdx before.length).filter fun (entry, place) =>
          key entry ∉ ((before ++ rest).take place).map key).map Prod.fst ∧
      laterOccurrencesFrom key seen rest =
        ((rest.zipIdx before.length).filter fun (entry, place) =>
          key entry ∈ ((before ++ rest).take place).map key).map Prod.fst := by
  induction rest generalizing before seen with
  | nil =>
      exact ⟨rfl, rfl⟩
  | cons head rest inductionHypothesis =>
      have shifted :
          before ++ head :: rest = (before ++ [head]) ++ rest := by
        rw [List.append_assoc, List.singleton_append]
      have headTake :
          (before ++ head :: rest).take before.length = before :=
        List.take_left
      by_cases known : key head ∈ seen
      · have seenNow :
            ∀ value,
              value ∈ seen ↔ value ∈ (before ++ [head]).map key := by
          intro value
          rw [List.map_append, List.mem_append, ← seenBefore]
          simp only [List.map_singleton, List.mem_singleton, iff_self_or]
          rintro rfl
          exact known
        have restEq := inductionHypothesis (before ++ [head]) seenNow
        rw [List.length_append, List.length_singleton, ← shifted] at restEq
        rw [firstOccurrencesFrom, laterOccurrencesFrom, if_pos known,
          if_pos known, restEq.1, restEq.2, List.zipIdx_cons,
          List.filter_cons, List.filter_cons]
        simp [headTake, ← seenBefore, known]
      · have seenNow :
            ∀ value,
              value ∈ key head :: seen ↔
                value ∈ (before ++ [head]).map key := by
          intro value
          rw [List.map_append, List.mem_append, ← seenBefore,
            List.mem_cons, or_comm]
          simp
        have restEq := inductionHypothesis (before ++ [head]) seenNow
        rw [List.length_append, List.length_singleton, ← shifted] at restEq
        rw [firstOccurrencesFrom, laterOccurrencesFrom, if_neg known,
          if_neg known, restEq.1, restEq.2, List.zipIdx_cons,
          List.filter_cons, List.filter_cons]
        simp [headTake, ← seenBefore, known]

/-- What is kept are the entries that open their key, in order. -/
theorem firstOccurrences_eq_openingEntries
    (key : α → κ)
    (entries : List α) :
    firstOccurrences key entries = openingEntries key entries :=
  (occurrencesFrom_eq_of_seen [] (by simp)).1

/-- What is left out are the entries that repeat a key, in order. -/
theorem laterOccurrences_eq_repeatingEntries
    (key : α → κ)
    (entries : List α) :
    laterOccurrences key entries = repeatingEntries key entries :=
  (occurrencesFrom_eq_of_seen [] (by simp)).2

/-- Every key is kept with one of its entries. -/
theorem mem_map_firstOccurrences
    {value : κ} :
    value ∈ (firstOccurrences key entries).map key ↔
      value ∈ entries.map key := by
  have sameSearch :=
    @find?_firstOccurrencesFrom _ _ _ key entries value []
      List.not_mem_nil
  have isFound (others : List α) :
      value ∈ others.map key ↔
        (others.find? fun other => key other = value).isSome := by
    simp
  rw [isFound, isFound, firstOccurrences, sameSearch]

/-- Entries with different new keys are all kept. -/
theorem occurrencesFrom_of_nodup
    {seen : List κ}
    (distinct : (entries.map key).Nodup)
    (unseen : ∀ entry ∈ entries, key entry ∉ seen) :
    firstOccurrencesFrom key seen entries = entries ∧
      laterOccurrencesFrom key seen entries = [] := by
  induction entries generalizing seen with
  | nil =>
      exact ⟨rfl, rfl⟩
  | cons head rest inductionHypothesis =>
      obtain ⟨notLater, distinct⟩ := List.nodup_cons.mp distinct
      have headUnseen := unseen head List.mem_cons_self
      have restUnseen : ∀ entry ∈ rest, key entry ∉ key head :: seen := by
        intro entry isMember
        rw [List.mem_cons, not_or]
        refine ⟨?_, unseen entry (List.mem_cons_of_mem _ isMember)⟩
        intro sameKey
        exact notLater (List.mem_map.mpr ⟨entry, isMember, sameKey⟩)
      obtain ⟨kept, leftOut⟩ := inductionHypothesis distinct restUnseen
      rw [firstOccurrencesFrom, laterOccurrencesFrom, if_neg headUnseen,
        if_neg headUnseen, kept, leftOut]
      exact ⟨rfl, rfl⟩

/-- The second half of a list sees the keys that the first half has kept. -/
theorem firstOccurrencesFrom_append
    {seen : List κ}
    {front back : List α} :
    firstOccurrencesFrom key seen (front ++ back) =
      firstOccurrencesFrom key seen front ++
        firstOccurrencesFrom key
          (((firstOccurrencesFrom key seen front).map key).reverse ++ seen)
          back := by
  induction front generalizing seen with
  | nil =>
      rfl
  | cons head rest inductionHypothesis =>
      by_cases known : key head ∈ seen
      · simp only [List.cons_append, firstOccurrencesFrom, if_pos known]
        exact inductionHypothesis
      · simp only [List.cons_append, firstOccurrencesFrom, if_neg known]
        rw [inductionHypothesis]
        simp

/-- Knowing more keys beforehand leaves out their entries and no others. -/
theorem firstOccurrencesFrom_eq_filter
    {seen known further : List κ}
    (seenAll : ∀ value, value ∈ seen ↔ value ∈ known ∨ value ∈ further) :
    firstOccurrencesFrom key seen entries =
      (firstOccurrencesFrom key known entries).filter
        fun entry => key entry ∉ further := by
  induction entries generalizing seen known with
  | nil =>
      rfl
  | cons head rest inductionHypothesis =>
      by_cases isKnown : key head ∈ known
      · have isSeen : key head ∈ seen := (seenAll _).mpr (Or.inl isKnown)
        rw [firstOccurrencesFrom, firstOccurrencesFrom, if_pos isSeen,
          if_pos isKnown]
        exact inductionHypothesis seenAll
      · rw [firstOccurrencesFrom, firstOccurrencesFrom, if_neg isKnown]
        by_cases isFurther : key head ∈ further
        · have isSeen : key head ∈ seen :=
            (seenAll _).mpr (Or.inr isFurther)
          have seenNow :
              ∀ value,
                value ∈ seen ↔
                  value ∈ key head :: known ∨ value ∈ further := by
            intro value
            rw [seenAll, List.mem_cons, or_assoc, iff_or_self]
            rintro rfl
            exact Or.inr isFurther
          rw [if_pos isSeen, inductionHypothesis seenNow,
            List.filter_cons_of_neg (by simpa using isFurther)]
        · have isUnseen : key head ∉ seen := by
            rw [seenAll]
            exact not_or.mpr ⟨isKnown, isFurther⟩
          have seenNow :
              ∀ value,
                value ∈ key head :: seen ↔
                  value ∈ key head :: known ∨ value ∈ further := by
            intro value
            rw [List.mem_cons, List.mem_cons, seenAll, or_assoc]
          rw [if_neg isUnseen, inductionHypothesis seenNow,
            List.filter_cons_of_pos (by simpa using isFurther)]

/-- Further entries add what they would keep alone, less the keys at hand. -/
theorem firstOccurrences_append
    {front back : List α} :
    firstOccurrences key (front ++ back) =
      firstOccurrences key front ++
        (firstOccurrences key back).filter fun entry =>
          key entry ∉ (firstOccurrences key front).map key := by
  rw [firstOccurrences, firstOccurrencesFrom_append, ← firstOccurrences]
  apply congrArg (firstOccurrences key front ++ ·)
  apply firstOccurrencesFrom_eq_filter
  simp

/-- Nothing is kept from a renamed list that the list itself would not keep. -/
theorem occurrencesFrom_map
    (key : α → κ)
    {view : β → α}
    {others : List β}
    {seen : List κ} :
    firstOccurrencesFrom key seen (others.map view) =
        (firstOccurrencesFrom (fun other => key (view other)) seen
          others).map view ∧
      laterOccurrencesFrom key seen (others.map view) =
        (laterOccurrencesFrom (fun other => key (view other)) seen
          others).map view := by
  induction others generalizing seen with
  | nil =>
      exact ⟨rfl, rfl⟩
  | cons head rest inductionHypothesis =>
      simp only [List.map_cons, firstOccurrencesFrom, laterOccurrencesFrom]
      by_cases known : key (view head) ∈ seen
      · simp [known, inductionHypothesis]
      · simp [known, inductionHypothesis]

end Lists

/-- The names of the languages of a pack, in order. -/
def Languages.names (languages : Languages) : List String :=
  languages.list.map Language.name

/-- The log line for a language that is named again. -/
def duplicateLanguageLine (name : String) : String :=
  "WARN Duplicate language " ++ name ++ " in catalog, keeping first"

/-- The log line for an entry whose category is named again. -/
def duplicateCategoryLine (entry : ListedCategory) : String :=
  "WARN Duplicate category " ++ entry.category.name ++
    " in catalog, keeping first"

theorem line_duplicateLanguage
    (name : String) :
    (Notice.duplicateLanguage ⟨name⟩).line =
      "WARN Duplicate language " ++ name ++ " in catalog, keeping first" := by
  have opening :
      "WARN" ++ (" " ++ "Duplicate language ") =
        "WARN Duplicate language " :=
    rfl
  have isMessage :
      (Notice.duplicateLanguage ⟨name⟩).message =
        "Duplicate language " ++ name ++ " in catalog, keeping first" :=
    rfl
  rw [← opening, Notice.line, isMessage]
  simp only [Notice.level, Level.label, String.append_assoc]

theorem line_duplicateCategory
    (category : Category) :
    (Notice.duplicateCategory category).line =
      "WARN Duplicate category " ++ category.name ++
        " in catalog, keeping first" := by
  have opening :
      "WARN" ++ (" " ++ "Duplicate category ") =
        "WARN Duplicate category " :=
    rfl
  have isMessage :
      (Notice.duplicateCategory category).message =
        "Duplicate category " ++ category.name ++
          " in catalog, keeping first" :=
    rfl
  rw [← opening, Notice.line, isMessage]
  simp only [Notice.level, Level.label, String.append_assoc]

/--
A part of a pack keeps the first entry of each key of what it is built from.

`build` makes the part, `entriesOf` gives its entries back, `warnings` are the
log lines of building it, and `warning` is the one for an entry left out.
-/
structure KeepsFirst
    [DecidableEq κ]
    (key : α → κ)
    (build : List α → γ)
    (entriesOf : γ → List α)
    (warnings : List α → List String)
    (warning : α → String)
    (given : List α) : Prop where
  distinct :
    ((entriesOf (build given)).map key).Nodup
  entries_eq :
    entriesOf (build given) = openingEntries key given
  warnings_eq :
    warnings given = (repeatingEntries key given).map warning
  length_add_length :
    (entriesOf (build given)).length + (warnings given).length =
      given.length
  rebuilt_eq :
    build (entriesOf (build given)) = build given
  rebuilt_silently :
    warnings (entriesOf (build given)) = []
  entries_append :
    ∀ further,
      entriesOf (build (given ++ further)) =
        entriesOf (build given) ++
          (entriesOf (build further)).filter fun entry =>
            key entry ∉ (entriesOf (build given)).map key

/-- What is built by first occurrences keeps the first entries. -/
theorem keepsFirst_of_firstOccurrences
    [DecidableEq κ]
    {key : α → κ}
    {build : List α → γ}
    {entriesOf : γ → List α}
    {warnings : List α → List String}
    {warning : α → String}
    (entries_build :
      ∀ given, entriesOf (build given) = firstOccurrences key given)
    (warnings_eq :
      ∀ given, warnings given = (laterOccurrences key given).map warning)
    (eq_of_entries : ∀ first second,
      entriesOf first = entriesOf second → first = second)
    (given : List α) :
    KeepsFirst key build entriesOf warnings warning given := by
  obtain ⟨keptAgain, noneLeftOut⟩ :=
    occurrencesFrom_of_nodup (nodup_firstOccurrences key given)
      (fun _ _ => List.not_mem_nil)
  exact
    { distinct := by
        rw [entries_build]
        exact nodup_firstOccurrences key given
      entries_eq := by
        rw [entries_build, firstOccurrences_eq_openingEntries]
      warnings_eq := by
        rw [warnings_eq, laterOccurrences_eq_repeatingEntries]
      length_add_length := by
        have together :=
          (firstOccurrences_append_laterOccurrences_perm key
            given).length_eq
        rw [List.length_append] at together
        rw [entries_build, warnings_eq, List.length_map, together]
      rebuilt_eq := by
        apply eq_of_entries
        rw [entries_build, entries_build]
        exact keptAgain
      rebuilt_silently := by
        rw [warnings_eq, entries_build, List.map_eq_nil_iff]
        exact noneLeftOut
      entries_append := by
        intro further
        rw [entries_build, entries_build, entries_build,
          firstOccurrences_append] }

/-- The default of a category is that of the first entry that names it. -/
structure Categories.DefaultsToFirst
    (entries : List ListedCategory)
    (category : Category) : Prop where
  of_listed :
    ∀ entry,
      IsFirstOf ListedCategory.category entries category entry →
        (ofEntries entries).defaultQueryOf category = entry.defaultQuery
  of_unlisted :
    category ∉ entries.map ListedCategory.category →
      (ofEntries entries).defaultQueryOf category = ""

theorem Categories.defaultsToFirst
    (entries : List ListedCategory)
    (category : Category) :
    DefaultsToFirst entries category where
  of_listed entry isFirst := by
    rw [← isFirstOf_firstOccurrences, isFirstOf_iff_find?] at isFirst
    rw [defaultQueryOf, ofEntries, isFirst]
  of_unlisted unlisted := by
    have notFound :
        (firstOccurrences ListedCategory.category entries).find?
            (fun entry => entry.category = category) =
          none := by
      rw [List.find?_eq_none]
      intro entry isKept sameCategory
      apply unlisted
      rw [← mem_map_firstOccurrences]
      exact List.mem_map.mpr ⟨entry, isKept, by simpa using sameCategory⟩
    rw [defaultQueryOf, ofEntries, notFound]

theorem Languages.names_ofNames
    (names : List String) :
    (ofNames names).names = firstOccurrences Language.mk names := by
  have isList :
      (ofNames names).list =
        firstOccurrencesFrom id [] (names.map Language.mk) :=
    rfl
  rw [Languages.names, isList, (occurrencesFrom_map id).1,
    List.map_map]
  exact List.map_id _

theorem Languages.lines_notices
    (names : List String) :
    (notices names).map Notice.line =
      (laterOccurrences Language.mk names).map duplicateLanguageLine := by
  rw [notices, dropped, laterOccurrences,
    (occurrencesFrom_map id).2, List.map_map, List.map_map]
  apply List.map_congr_left
  intro name _
  exact line_duplicateLanguage name

theorem Categories.lines_notices
    (entries : List ListedCategory) :
    (notices entries).map Notice.line =
      (laterOccurrences ListedCategory.category entries).map
        duplicateCategoryLine := by
  rw [notices, dropped, List.map_map]
  apply List.map_congr_left
  intro entry _
  exact line_duplicateCategory entry.category

theorem Languages.map_mk_names
    (languages : Languages) :
    languages.names.map Language.mk = languages.list := by
  rw [Languages.names, List.map_map]
  exact List.map_id _

/-- Languages with the same names in the same order are the same. -/
theorem Languages.eq_of_names_eq
    {languages other : Languages}
    (sameNames : languages.names = other.names) :
    languages = other := by
  have sameList : languages.list = other.list := by
    rw [← map_mk_names, ← map_mk_names, sameNames]
  cases languages
  cases other
  cases sameList
  rfl

theorem Categories.eq_of_entries_eq
    {categories other : Categories}
    (sameEntries : categories.entries = other.entries) :
    categories = other := by
  cases categories
  cases other
  cases sameEntries
  rfl

theorem Languages.contains_ofNames_iff
    {names : List String}
    {name : String} :
    (ofNames names).contains ⟨name⟩ = true ↔ name ∈ names := by
  rw [contains_eq_true_iff, ← map_mk_names, names_ofNames,
    mem_map_firstOccurrences]
  simp

theorem Categories.contains_ofEntries_iff
    {entries : List ListedCategory}
    {category : Category} :
    (ofEntries entries).contains category = true ↔
      ∃ entry ∈ entries, entry.category = category := by
  rw [contains_eq_true_iff, list, ofEntries, mem_map_firstOccurrences,
    List.mem_map]

/--
From any names and any entries the languages and the categories of a pack keep
the first entry of each key and warn of every other one; they contain what was
named, and a category has the default of the first entry that names it.
-/
theorem pack_keepsFirst
    (names : List String)
    (entries : List ListedCategory) :
    (KeepsFirst Language.mk Languages.ofNames Languages.names
          (fun names => (Languages.notices names).map Notice.line)
          duplicateLanguageLine names ∧
        ∀ name,
          (Languages.ofNames names).contains ⟨name⟩ = true ↔
            name ∈ names) ∧
      KeepsFirst ListedCategory.category Categories.ofEntries
          Categories.entries
          (fun entries => (Categories.notices entries).map Notice.line)
          duplicateCategoryLine entries ∧
        ∀ category,
          ((Categories.ofEntries entries).contains category = true ↔
              ∃ entry ∈ entries, entry.category = category) ∧
            Categories.DefaultsToFirst entries category := by
  refine ⟨⟨?_, fun _ => Languages.contains_ofNames_iff⟩, ?_,
    fun category =>
      ⟨Categories.contains_ofEntries_iff,
        Categories.defaultsToFirst entries category⟩⟩
  · exact keepsFirst_of_firstOccurrences Languages.names_ofNames
      Languages.lines_notices (fun _ _ => Languages.eq_of_names_eq) names
  · apply keepsFirst_of_firstOccurrences
    · exact fun _ => rfl
    · exact Categories.lines_notices
    · exact fun _ _ => Categories.eq_of_entries_eq

/-- The second default of a category is dropped together with its entry. -/
example :
    let entries : List ListedCategory :=
      [⟨⟨"a"⟩, ""⟩, ⟨⟨"b"⟩, "(b) @b"⟩, ⟨⟨"a"⟩, "(a) @a"⟩]
    (Categories.ofEntries entries).entries =
        [⟨⟨"a"⟩, ""⟩, ⟨⟨"b"⟩, "(b) @b"⟩] ∧
      Categories.notices entries = [.duplicateCategory ⟨"a"⟩] := by
  decide

end QueryPack
