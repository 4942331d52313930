import Mathlib.Data.List.Perm.Basic
import QueryPack.Proofs.FirstObstacle

namespace QueryPack

/-!
# The order of a pack does not matter

Languages and categories are written in the order in which they are listed.
Over plain names this order only decides when a pair is written: a permuted
pack succeeds in the same cases, leaves the same file system and reports the
same artifacts, in another order.
-/

namespace Categories

/-- The default of a listed category is that of its entry. -/
theorem defaultQueryOf_of_mem
    {categories : Categories}
    {entry : ListedCategory}
    (isEntry : entry ∈ categories.entries) :
    categories.defaultQueryOf entry.category = entry.defaultQuery := by
  unfold defaultQueryOf
  split
  next found isFound =>
    have sameCategory : found.category = entry.category := by
      simpa using List.find?_some isFound
    have sameEntry : found = entry :=
      List.inj_on_of_nodup_map categories.nodup
        (List.mem_of_find?_eq_some isFound) isEntry sameCategory
    rw [sameEntry]
  next notFound =>
    have noneIs := List.find?_eq_none.mp notFound entry isEntry
    simp at noneIs

/-- A category that is not listed has no default. -/
theorem defaultQueryOf_of_not_mem
    {categories : Categories}
    {category : Category}
    (notListed : category ∉ categories.list) :
    categories.defaultQueryOf category = "" := by
  unfold defaultQueryOf
  split
  next found isFound =>
    have sameCategory : found.category = category := by
      simpa using List.find?_some isFound
    exact absurd
      (sameCategory ▸
        List.mem_map_of_mem (List.mem_of_find?_eq_some isFound))
      notListed
  next => rfl

section Permuted

variable
    {categories permuted : Categories}

theorem list_perm
    (sameEntries : categories.entries.Perm permuted.entries) :
    categories.list.Perm permuted.list :=
  sameEntries.map ListedCategory.category

/-- Categories have the same defaults in whatever order they are listed. -/
theorem defaultQueryOf_eq_of_perm
    (sameEntries : categories.entries.Perm permuted.entries)
    (category : Category) :
    permuted.defaultQueryOf category =
      categories.defaultQueryOf category := by
  by_cases isListed : category ∈ categories.list
  · obtain ⟨entry, isEntry, rfl⟩ := List.mem_map.mp isListed
    rw [defaultQueryOf_of_mem isEntry,
      defaultQueryOf_of_mem (sameEntries.mem_iff.mp isEntry)]
  · rw [defaultQueryOf_of_not_mem isListed, defaultQueryOf_of_not_mem]
    exact fun isListedToo =>
      isListed ((list_perm sameEntries).mem_iff.mpr isListedToo)

end Permuted

end Categories

/-- File systems that the same steps have left are the same. -/
theorem LeftBy.unique
    {root : Path}
    {base : Location}
    {done reordered : List Step}
    {before after otherAfter : FileSystem}
    (leftBy : LeftBy root base done before after)
    (otherLeftBy : LeftBy root base reordered before otherAfter)
    (sameSteps : ∀ step, step ∈ reordered ↔ step ∈ done) :
    otherAfter = after := by
  apply FileSystem.ext_entryAt?
  · rw [otherLeftBy.workingDirectory_eq, leftBy.workingDirectory_eq]
  · intro location
    by_cases touched : ∃ step ∈ done, step.place base = location
    · obtain ⟨step, member, rfl⟩ := touched
      rw [leftBy.entryAt?_place step member,
        otherLeftBy.entryAt?_place step ((sameSteps step).mpr member)]
    · rw [leftBy.entryAt?_elsewhere location
          (fun step member isPlace => touched ⟨step, member, isPlace⟩),
        otherLeftBy.entryAt?_elsewhere location
          (fun step member isPlace =>
            touched ⟨step, (sameSteps step).mp member, isPlace⟩)]

section Plain

variable
    {root : Path}
    {languages : Languages}
    {book : QueryBook}
    {fileSystem : FileSystem}

/-- A run succeeds when its root can be made and no step is blocked. -/
theorem unstopped_iff
    (plainLanguages :
      ∀ language ∈ languages.list, language.IsPlain)
    (plainCategories :
      ∀ category ∈ book.categories.list, category.IsPlain) :
    (carryOut root (plan languages book) fileSystem).stopped? = none ↔
      (fileSystem.createDirectories root).failure? = none ∧
        ∀ step ∈ languageSteps languages book,
          ¬ step.IsBlocked root
            (fileSystem.createDirectories root).fileSystem := by
  constructor
  · intro unstopped
    exact ⟨made_of_unstopped unstopped, fun _ member =>
      not_isBlocked_of_unstopped plainLanguages plainCategories unstopped
        member⟩
  · rintro ⟨made, noneBlocked⟩
    by_contra isStopped
    obtain ⟨⟨step, reason⟩, stopped⟩ :=
      Option.ne_none_iff_exists'.mp isStopped
    obtain ⟨earlier, later, stepsShape, _, blocked, _⟩ :=
      exists_first_obstacle plainLanguages plainCategories made stopped
    exact noneBlocked step (by simp [stepsShape]) blocked

/-- What a run that nothing stopped has left in and below its root. -/
theorem leftBy_of_unstopped
    {base : Location}
    (plainLanguages :
      ∀ language ∈ languages.list, language.IsPlain)
    (plainCategories :
      ∀ category ∈ book.categories.list, category.IsPlain)
    (rootAt :
      RootAt root (fileSystem.createDirectories root).fileSystem base)
    (unstopped :
      (carryOut root (plan languages book) fileSystem).stopped? = none) :
    LeftBy root base (languageSteps languages book)
      (fileSystem.createDirectories root).fileSystem
      (carryOut root (plan languages book) fileSystem).fileSystem := by
  have made := made_of_unstopped unstopped
  rw [carryOut_plan_of_made made] at unstopped ⊢
  have leftBy :=
    (UnderWay.of_rootAt plainLanguages plainCategories
      rootAt).carryOut_rest.1
  rwa [completed_carryOut_of_stopped?_eq_none unstopped] at leftBy

end Plain

section Permuted

variable
    {root : Path}
    {languages permutedLanguages : Languages}
    {overrides : Overrides}
    {categories permutedCategories : Categories}
    {fileSystem : FileSystem}

/-- Every pair has the same query in whatever order categories are listed. -/
theorem effective_eq_of_perm
    (sameCategories : categories.entries.Perm permutedCategories.entries) :
    QueryBook.effective ⟨overrides, permutedCategories⟩ =
      QueryBook.effective ⟨overrides, categories⟩ := by
  funext language category
  simp only [QueryBook.effective,
    Categories.defaultQueryOf_eq_of_perm sameCategories]

theorem queries_perm
    (sameLanguages : languages.list.Perm permutedLanguages.list)
    (sameCategories : categories.entries.Perm permutedCategories.entries) :
    (QueryBook.queries ⟨overrides, categories⟩ languages).Perm
      (QueryBook.queries ⟨overrides, permutedCategories⟩
        permutedLanguages) := by
  apply sameLanguages.flatMap
  intro language _
  simp only [QueryBook.ofLanguage, effective_eq_of_perm sameCategories]
  exact (Categories.list_perm sameCategories).map _

/-- A permuted pack is written by the same steps. -/
theorem mem_languageSteps_of_perm
    (sameLanguages : languages.list.Perm permutedLanguages.list)
    (sameCategories : categories.entries.Perm permutedCategories.entries)
    (step : Step) :
    step ∈ languageSteps permutedLanguages
        ⟨overrides, permutedCategories⟩ ↔
      step ∈ languageSteps languages ⟨overrides, categories⟩ := by
  simp only [mem_languageSteps, effective_eq_of_perm sameCategories,
    sameLanguages.mem_iff, (Categories.list_perm sameCategories).mem_iff]

/-- Nothing stops a run over a permuted pack unless it stops the other one. -/
theorem unstopped_of_perm
    (sameLanguages : languages.list.Perm permutedLanguages.list)
    (sameCategories : categories.entries.Perm permutedCategories.entries)
    (plainLanguages :
      ∀ language ∈ languages.list, language.IsPlain)
    (plainCategories :
      ∀ category ∈ categories.list, category.IsPlain) :
    (carryOut root
        (plan permutedLanguages ⟨overrides, permutedCategories⟩)
        fileSystem).stopped? = none ↔
      (carryOut root (plan languages ⟨overrides, categories⟩)
        fileSystem).stopped? = none := by
  rw [unstopped_iff plainLanguages plainCategories, unstopped_iff]
  · simp only [mem_languageSteps_of_perm sameLanguages sameCategories]
  · exact fun language isListed =>
      plainLanguages language (sameLanguages.mem_iff.mpr isListed)
  · exact fun category isListed =>
      plainCategories category
        ((Categories.list_perm sameCategories).mem_iff.mpr isListed)

/-- Runs over permuted packs that nothing stopped leave the same. -/
theorem fileSystem_carryOut_of_perm
    (sameLanguages : languages.list.Perm permutedLanguages.list)
    (sameCategories : categories.entries.Perm permutedCategories.entries)
    (plainLanguages :
      ∀ language ∈ languages.list, language.IsPlain)
    (plainCategories :
      ∀ category ∈ categories.list, category.IsPlain)
    (unstopped :
      (carryOut root (plan languages ⟨overrides, categories⟩)
        fileSystem).stopped? = none)
    (permutedUnstopped :
      (carryOut root
        (plan permutedLanguages ⟨overrides, permutedCategories⟩)
        fileSystem).stopped? = none) :
    (carryOut root
        (plan permutedLanguages ⟨overrides, permutedCategories⟩)
        fileSystem).fileSystem =
      (carryOut root (plan languages ⟨overrides, categories⟩)
        fileSystem).fileSystem := by
  have made := made_of_unstopped unstopped
  obtain ⟨base, rootAt⟩ :=
    RootAt.of_hasDirectory
      (FileSystem.hasDirectory_of_createDirectories made)
  have leftBy :=
    leftBy_of_unstopped plainLanguages plainCategories rootAt unstopped
  have permutedLeftBy :=
    leftBy_of_unstopped
      (fun language isListed =>
        plainLanguages language (sameLanguages.mem_iff.mpr isListed))
      (fun category isListed =>
        plainCategories category
          ((Categories.list_perm sameCategories).mem_iff.mpr isListed))
      rootAt permutedUnstopped
  exact leftBy.unique permutedLeftBy
    (mem_languageSteps_of_perm sameLanguages sameCategories)

/--
Runs over plain names that list the same languages and the same categories in
different orders succeed in the same cases. They then leave the same file
system and report the same artifacts, up to their order.
-/
theorem writePack_order_independent
    (root : Path)
    (overrides : Overrides)
    (fileSystem : FileSystem)
    (sameLanguages : languages.list.Perm permutedLanguages.list)
    (sameCategories : categories.entries.Perm permutedCategories.entries)
    (plainLanguages :
      ∀ language ∈ languages.list, language.IsPlain)
    (plainCategories :
      ∀ category ∈ categories.list, category.IsPlain) :
    let outcome :=
      writePack root languages ⟨overrides, categories⟩ fileSystem
    let permuted :=
      writePack root permutedLanguages ⟨overrides, permutedCategories⟩
        fileSystem
    ((∃ report, outcome.result = .ok report) ↔
        ∃ report, permuted.result = .ok report) ∧
      ∀ report permutedReport,
        outcome.result = .ok report →
        permuted.result = .ok permutedReport →
        permuted.fileSystem = outcome.fileSystem ∧
          report.artifacts.Perm permutedReport.artifacts ∧
          ∀ source, permutedReport.count source = report.count source := by
  intro outcome permuted
  constructor
  · simp only [outcome, permuted, result_eq_ok_iff, exists_and_left,
      exists_eq, and_true]
    exact (unstopped_of_perm sameLanguages sameCategories plainLanguages
      plainCategories).symm
  · intro report permutedReport finished permutedFinished
    obtain ⟨unstopped, reportShape⟩ := result_eq_ok_iff.mp finished
    obtain ⟨permutedUnstopped, permutedShape⟩ :=
      result_eq_ok_iff.mp permutedFinished
    have sameArtifacts :
        report.artifacts.Perm permutedReport.artifacts := by
      rw [reportShape, permutedShape, written_of_unstopped unstopped,
        written_of_unstopped permutedUnstopped]
      exact (queries_perm sameLanguages sameCategories).map _
    refine ⟨?_, sameArtifacts, fun source => ?_⟩
    · simp only [outcome, permuted, fileSystem_writePack]
      exact fileSystem_carryOut_of_perm sameLanguages sameCategories
        plainLanguages plainCategories unstopped permutedUnstopped
    · exact (sameArtifacts.countP_eq _).symm

/-- Two languages and two categories, listed forwards and backwards. -/
theorem writePack_order_independent_reversed :
    let root : Path := ⟨"out"⟩
    let overrides : Overrides :=
      .ofList [⟨⟨"go"⟩, ⟨"functions"⟩, "(func) @f"⟩]
    let languages : Languages := .ofNames ["go", "rust"]
    let reversedLanguages : Languages := .ofNames ["rust", "go"]
    let categories : Categories :=
      .ofEntries [⟨⟨"functions"⟩, ""⟩, ⟨⟨"classes"⟩, "(class) @c"⟩]
    let reversedCategories : Categories :=
      .ofEntries [⟨⟨"classes"⟩, "(class) @c"⟩, ⟨⟨"functions"⟩, ""⟩]
    let outcome := writePack root languages ⟨overrides, categories⟩ .bare
    let reversed :=
      writePack root reversedLanguages ⟨overrides, reversedCategories⟩ .bare
    ∃ report reversedReport,
      outcome.result = .ok report ∧
        reversed.result = .ok reversedReport ∧
        report.artifacts ≠ reversedReport.artifacts ∧
        reversed.fileSystem = outcome.fileSystem ∧
        report.artifacts.Perm reversedReport.artifacts := by
  intro root overrides languages reversedLanguages categories
    reversedCategories outcome reversed
  have sameLanguages :
      languages.list.Perm reversedLanguages.list := by
    decide
  have sameCategories :
      categories.entries.Perm reversedCategories.entries := by
    decide
  obtain ⟨sameSuccess, sameOutput⟩ :=
    writePack_order_independent root overrides .bare sameLanguages
      sameCategories (by decide) (by decide)
  have unstopped :
      (carryOut root (plan languages ⟨overrides, categories⟩)
        .bare).stopped? = none := by
    decide +kernel
  have finished := result_eq_ok_iff.mpr ⟨unstopped, rfl⟩
  obtain ⟨reversedReport, reversedFinished⟩ :=
    sameSuccess.mp ⟨_, finished⟩
  obtain ⟨sameFileSystem, sameArtifacts, _⟩ :=
    sameOutput _ _ finished reversedFinished
  refine ⟨_, _, finished, reversedFinished, ?_, sameFileSystem,
    sameArtifacts⟩
  obtain ⟨reversedUnstopped, reversedShape⟩ :=
    result_eq_ok_iff.mp reversedFinished
  rw [reversedShape, written_of_unstopped unstopped,
    written_of_unstopped reversedUnstopped]
  decide +kernel

end Permuted

end QueryPack
