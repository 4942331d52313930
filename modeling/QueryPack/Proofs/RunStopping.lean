import Mathlib.Data.List.Nodup
import QueryPack.Proofs.RunProgress

namespace QueryPack

/-!
# Where a run stops

No step occurs twice in a plan, because languages and categories are listed
once. The step at which a run stops therefore says how far it came: the queries
that were written are those before the language or the pair that the error
names.
-/

/-- The effective query of every pair of a pack, in writing order. -/
def QueryBook.queries
    (book : QueryBook)
    (languages : Languages) : List EffectiveQuery :=
  languages.list.flatMap book.ofLanguage

/-- The pairs of a language, in category order. -/
def Categories.keysOf
    (categories : Categories)
    (language : Language) : List QueryKey :=
  categories.list.map fun category => ⟨language, category⟩

/-- The pairs of a pack, in writing order. -/
def packKeys
    (languages : Languages)
    (categories : Categories) : List QueryKey :=
  languages.list.flatMap categories.keysOf

/-- The queries of a pack that come before what an error names. -/
def RunError.queriesBefore
    (languages : Languages)
    (book : QueryBook) : RunError → List EffectiveQuery
  | .createRoot _ _ =>
      []
  | .createDirectory language _ _ =>
      (languages.list.takeWhile (· ≠ language)).flatMap book.ofLanguage
  | .write language category _ _ =>
      (book.queries languages).takeWhile
        (· ≠ book.effective language category)

/-- The queries that a run has written, as its result tells. -/
def RunOutcome.queriesWritten
    (languages : Languages)
    (book : QueryBook)
    (outcome : RunOutcome) : List EffectiveQuery :=
  match outcome.result with
  | .ok _ => book.queries languages
  | .error error => error.queriesBefore languages book

theorem mem_packKeys
    {languages : Languages}
    {categories : Categories}
    {key : QueryKey} :
    key ∈ packKeys languages categories ↔
      key.language ∈ languages.list ∧ key.category ∈ categories.list := by
  obtain ⟨language, category⟩ := key
  simp [packKeys, Categories.keysOf]

/-- No pair of a pack occurs twice. -/
theorem nodup_packKeys
    (languages : Languages)
    (categories : Categories) :
    (packKeys languages categories).Nodup := by
  rw [packKeys, List.nodup_flatMap]
  constructor
  · intro language _
    exact List.Nodup.map (fun _ _ same => (QueryKey.mk.inj same).2)
      categories.nodup
  · apply languages.nodup.imp
    intro first second different key ofFirst ofSecond
    obtain ⟨_, _, rfl⟩ := List.mem_map.mp ofFirst
    obtain ⟨_, _, same⟩ := List.mem_map.mp ofSecond
    exact different (QueryKey.mk.inj same).1.symm

/-- The queries of a pack are those of its pairs. -/
theorem queries_eq_map_packKeys
    (languages : Languages)
    (book : QueryBook) :
    book.queries languages =
      (packKeys languages book.categories).map fun key =>
        book.effective key.language key.category := by
  simp only [packKeys, Categories.keysOf, List.map_flatMap, List.map_map]
  rfl

theorem mem_languagePlan
    {book : QueryBook}
    {language : Language}
    {step : Step} :
    step ∈ languagePlan book language ↔
      step = .openLanguage language ∨
        ∃ category ∈ book.categories.list,
          step = .writeArtifact (book.effective language category) := by
  simp [languagePlan, QueryBook.ofLanguage, eq_comm]

theorem mem_plan
    {languages : Languages}
    {book : QueryBook}
    {step : Step} :
    step ∈ plan languages book ↔
      step = .makeRoot ∨
        ∃ language ∈ languages.list,
          step ∈ languagePlan book language := by
  simp [plan]

theorem language_effective
    (book : QueryBook)
    (language : Language)
    (category : Category) :
    (book.effective language category).language = language := by
  unfold QueryBook.effective
  split
  next => rfl
  next => split <;> rfl

theorem category_effective
    (book : QueryBook)
    (language : Language)
    (category : Category) :
    (book.effective language category).category = category := by
  unfold QueryBook.effective
  split
  next => rfl
  next => split <;> rfl

/-- The steps for one language are different from one another. -/
theorem nodup_languagePlan
    (book : QueryBook)
    (language : Language) :
    (languagePlan book language).Nodup := by
  rw [languagePlan, List.nodup_cons]
  refine ⟨by simp, ?_⟩
  rw [QueryBook.ofLanguage, List.map_map]
  apply List.Nodup.map ?_ book.categories.nodup
  intro first second same
  injection same with sameQuery
  rw [← category_effective book language first, sameQuery,
    category_effective]

/-- Different languages have no step in common. -/
theorem disjoint_languagePlan
    {book : QueryBook}
    {first second : Language}
    (different : first ≠ second) :
    List.Disjoint (languagePlan book first) (languagePlan book second) := by
  intro step inFirst inSecond
  rcases mem_languagePlan.mp inFirst with
      opensFirst | ⟨firstCategory, _, writesFirst⟩
  · subst opensFirst
    rcases mem_languagePlan.mp inSecond with
        opensSecond | ⟨_, _, writesSecond⟩
    · injection opensSecond with same
      exact different same
    · cases writesSecond
  · subst writesFirst
    rcases mem_languagePlan.mp inSecond with
        opensSecond | ⟨secondCategory, _, writesSecond⟩
    · cases opensSecond
    · injection writesSecond with sameQuery
      apply different
      rw [← language_effective book first firstCategory, sameQuery,
        language_effective]

/-- No step of a plan occurs twice. -/
theorem nodup_plan
    (languages : Languages)
    (book : QueryBook) :
    (plan languages book).Nodup := by
  rw [plan, List.nodup_cons]
  constructor
  · simp [languagePlan]
  · rw [List.nodup_flatMap]
    refine ⟨fun language _ => nodup_languagePlan book language, ?_⟩
    exact languages.nodup.imp
      (fun different => disjoint_languagePlan different)

/-- The step that stopped a run comes next after those carried out. -/
theorem exists_rest_of_stopped
    {root : Path}
    {steps : List Step}
    {fileSystem : FileSystem}
    {step : Step}
    {reason : AccessError}
    (stopped :
      (carryOut root steps fileSystem).stopped? = some (step, reason)) :
    ∃ rest,
      steps = (carryOut root steps fileSystem).completed ++ step :: rest := by
  induction steps generalizing fileSystem with
  | nil =>
      cases stopped
  | cons head rest inductionHypothesis =>
      rcases performed : head.perform root fileSystem with
        ⟨after, _ | headReason⟩
      · rw [carryOut_of_success performed] at stopped ⊢
        obtain ⟨later, restShape⟩ := inductionHypothesis stopped
        exact ⟨later, congrArg (List.cons head) restShape⟩
      · rw [carryOut_of_failure performed] at stopped ⊢
        injection stopped with sameStop
        injection sameStop with isHead _
        subst isHead
        exact ⟨rest, rfl⟩

/-- In a list without repetitions, what comes before an entry is a `takeWhile`. -/
theorem takeWhile_ne_of_nodup
    [DecidableEq β]
    {items earlier later : List β}
    {item : β}
    (noDuplicates : items.Nodup)
    (itemsShape : items = earlier ++ item :: later) :
    items.takeWhile (· ≠ item) = earlier := by
  subst itemsShape
  have notEarlier : item ∉ earlier := by
    intro member
    exact (List.nodup_append.mp noDuplicates).2.2 item member item
      List.mem_cons_self rfl
  rw [List.takeWhile_append_of_pos]
  · simp
  · intro other member
    simpa using fun same : other = item => notEarlier (same ▸ member)

theorem filterMap_query?_languagePlan
    (book : QueryBook)
    (language : Language) :
    (languagePlan book language).filterMap Step.query? =
      book.ofLanguage language := by
  simp [languagePlan, List.filterMap_cons, Step.query?,
    List.filterMap_map, Function.comp_def]

theorem filterMap_query?_plan
    (languages : Languages)
    (book : QueryBook) :
    (plan languages book).filterMap Step.query? =
      book.queries languages := by
  simp [plan, List.filterMap_cons, Step.query?, List.filterMap_flatMap,
    filterMap_query?_languagePlan, QueryBook.queries]

/-- The queries before a language is opened are those of the languages before. -/
theorem filterMap_takeWhile_openLanguage
    (book : QueryBook)
    (languages : List Language)
    (language : Language) :
    ((languages.flatMap (languagePlan book)).takeWhile
        (· ≠ .openLanguage language)).filterMap Step.query? =
      (languages.takeWhile (· ≠ language)).flatMap book.ofLanguage := by
  induction languages with
  | nil =>
      rfl
  | cons head rest inductionHypothesis =>
      by_cases isHead : head = language
      · subst isHead
        simp [languagePlan]
      · rw [List.flatMap_cons, List.takeWhile_append_of_pos,
          List.filterMap_append, filterMap_query?_languagePlan,
          inductionHypothesis]
        · simp [isHead]
        · intro step member
          rcases mem_languagePlan.mp member with opens | ⟨_, _, writes⟩
          · simp [opens, isHead]
          · simp [writes]

/-- The queries before a write are those before its query. -/
theorem filterMap_takeWhile_writeArtifact
    (steps : List Step)
    (query : EffectiveQuery) :
    (steps.takeWhile (· ≠ .writeArtifact query)).filterMap Step.query? =
      (steps.filterMap Step.query?).takeWhile (· ≠ query) := by
  induction steps with
  | nil =>
      rfl
  | cons step rest inductionHypothesis =>
      cases step with
      | makeRoot =>
          simpa [List.filterMap_cons, Step.query?] using
            inductionHypothesis
      | openLanguage language =>
          simpa [List.filterMap_cons, Step.query?] using
            inductionHypothesis
      | writeArtifact head =>
          by_cases isHead : head = query
          · simp [isHead, Step.query?]
          · simpa [isHead, Step.query?] using inductionHypothesis

/-- A run that nothing stopped has written every query. -/
theorem written_of_unstopped
    {root : Path}
    {languages : Languages}
    {book : QueryBook}
    {fileSystem : FileSystem}
    (unstopped :
      (carryOut root (plan languages book) fileSystem).stopped? = none) :
    (carryOut root (plan languages book) fileSystem).written =
      book.queries languages := by
  rw [Progress.written, completed_carryOut_of_stopped?_eq_none unstopped,
    filterMap_query?_plan]

/-- The result of a run tells which queries it has written. -/
theorem queriesWritten_writePack
    (root : Path)
    (languages : Languages)
    (book : QueryBook)
    (fileSystem : FileSystem) :
    (writePack root languages book fileSystem).queriesWritten
        languages book =
      (carryOut root (plan languages book) fileSystem).written := by
  rcases stopped :
      (carryOut root (plan languages book) fileSystem).stopped? with
    _ | ⟨step, reason⟩
  · simp [writePack, stopped, RunOutcome.queriesWritten,
      written_of_unstopped stopped]
  · obtain ⟨rest, planShape⟩ := exists_rest_of_stopped stopped
    have completed :=
      takeWhile_ne_of_nodup (nodup_plan languages book) planShape
    have stepInPlan : step ∈ plan languages book := by
      rw [planShape]
      simp
    simp only [writePack, stopped, RunOutcome.queriesWritten,
      Progress.written]
    rw [← completed]
    rcases mem_plan.mp stepInPlan with isRoot | ⟨language, _, inLanguage⟩
    · subst isRoot
      simp [Step.error, RunError.queriesBefore, plan]
    · rcases mem_languagePlan.mp inLanguage with
        opens | ⟨category, _, writes⟩
      · subst opens
        simp only [Step.error, RunError.queriesBefore, plan]
        rw [List.takeWhile_cons_of_pos (by simp),
          List.filterMap_cons_none (by rfl),
          filterMap_takeWhile_openLanguage]
      · subst writes
        simp only [Step.error, RunError.queriesBefore,
          language_effective, category_effective]
        rw [filterMap_takeWhile_writeArtifact, filterMap_query?_plan]

/-- A run leaves what carrying out its plan leaves. -/
theorem fileSystem_writePack
    (root : Path)
    (languages : Languages)
    (book : QueryBook)
    (fileSystem : FileSystem) :
    (writePack root languages book fileSystem).fileSystem =
      (carryOut root (plan languages book) fileSystem).fileSystem := by
  unfold writePack
  dsimp only
  split <;> rfl

section Result

variable
    {root : Path}
    {languages : Languages}
    {book : QueryBook}
    {fileSystem : FileSystem}

/-- A run succeeds when nothing stops it, and reports what it wrote. -/
theorem result_eq_ok_iff
    {report : RunReport} :
    (writePack root languages book fileSystem).result = .ok report ↔
      (carryOut root (plan languages book) fileSystem).stopped? = none ∧
        report =
          .ofQueries root languages book.categories
            (carryOut root (plan languages book) fileSystem).written := by
  unfold writePack
  dsimp only
  split
  next stopped => simp [stopped]
  next unstopped => simp [unstopped, eq_comm]

theorem root_of_finished
    {report : RunReport}
    (finished :
      (writePack root languages book fileSystem).result = .ok report) :
    report.root = root := by
  rw [(result_eq_ok_iff.mp finished).2]
  rfl

/-- A run that succeeds reports an artifact for every query of its pack. -/
theorem artifacts_of_finished
    {report : RunReport}
    (finished :
      (writePack root languages book fileSystem).result = .ok report) :
    report.artifacts =
      (book.queries languages).map (Artifact.ofQuery root) := by
  obtain ⟨unstopped, reportShape⟩ := result_eq_ok_iff.mp finished
  rw [reportShape, written_of_unstopped unstopped]
  rfl

/-- A run fails with the error of the step that stopped it. -/
theorem result_eq_error_iff
    {error : RunError} :
    (writePack root languages book fileSystem).result = .error error ↔
      ∃ step reason,
        (carryOut root (plan languages book) fileSystem).stopped? =
            some (step, reason) ∧
          error = step.error root reason := by
  unfold writePack
  dsimp only
  split
  next step reason stopped => simp [stopped, eq_comm]
  next unstopped => simp [unstopped]

end Result

end QueryPack
