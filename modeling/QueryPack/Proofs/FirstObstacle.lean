import QueryPack.FileSystem.Tree
import QueryPack.Proofs.PlainRun

namespace QueryPack

/-!
# A run fails at the first obstacle

Over plain names it can be told before anything is written whether a run will
fail, where it will stop and what it will leave: an obstacle is a step whose
name is unusable, whose path is too long, or whose place is taken by an entry
of the wrong kind, all as seen once the root has been made.
-/

/-- Carried out steps have left what they are for, and nothing else changed. -/
structure LeavesOnly
    (root : Path)
    (done : List Step)
    (before after : FileSystem) : Prop where
  workingDirectory_eq :
    after.workingDirectory = before.workingDirectory
  step_done :
    ∀ step ∈ done,
      ∃ location,
        after.locate (step.path root) = .ok location ∧
          after.entryAt? location =
            some (step.leaves (before.entryAt? location))
  elsewhere_same :
    ∀ location,
      (∀ step ∈ done, after.locate (step.path root) ≠ .ok location) →
      after.entryAt? location = before.entryAt? location

theorem LeftBy.leavesOnly
    {root : Path}
    {base : Location}
    {done : List Step}
    {before after : FileSystem}
    (leftBy : LeftBy root base done before after)
    (plain : ∀ step ∈ done, step.IsPlain) :
    LeavesOnly root done before after where
  workingDirectory_eq :=
    leftBy.workingDirectory_eq
  step_done step member :=
    ⟨step.place base, leftBy.locate_path member (plain step member),
      leftBy.entryAt?_place step member⟩
  elsewhere_same location elsewhere := by
    apply leftBy.entryAt?_elsewhere
    intro step member isPlace
    apply elsewhere step member
    rw [leftBy.locate_path member (plain step member), isPlace]

namespace Path

/-- The working directory, written with slashes behind it. -/
def dotSlashes (count : Nat) : Path :=
  ⟨String.ofList ('.' :: List.replicate count '/')⟩

theorem segments_dotSlashes
    (count : Nat) :
    (dotSlashes count).segments = [.current] := by
  rw [segments, dotSlashes, String.toList_ofList]
  induction count with
  | zero =>
      rfl
  | succ count inductionHypothesis =>
      rw [List.replicate_succ', ← List.cons_append,
        filterMap_splitAtSlashes_slash, inductionHypothesis]

theorem utf8ByteSize_dotSlashes
    (count : Nat) :
    (dotSlashes count).text.utf8ByteSize = count + 1 := by
  have slashes :
      (String.ofList (List.replicate count '/')).utf8ByteSize = count := by
    induction count with
    | zero =>
        rfl
    | succ count inductionHypothesis =>
        rw [List.replicate_succ, String.ofList_cons,
          String.utf8ByteSize_append, inductionHypothesis]
        exact Nat.add_comm 1 count
  rw [dotSlashes, String.ofList_cons, String.utf8ByteSize_append, slashes]
  exact Nat.add_comm 1 count

end Path

theorem FileSystem.isDirectory_dotSlashes
    (fileSystem : FileSystem)
    {count : Nat}
    (short : count + 1 ≤ maxPathBytes) :
    fileSystem.isDirectory (Path.dotSlashes count) = true := by
  rw [isDirectory_eq_true_iff, checkPath_eq_ok_iff,
    Path.utf8ByteSize_dotSlashes, Path.segments_dotSlashes]
  have atStart := fileSystem.entryAt?_start (Path.dotSlashes count)
  refine ⟨⟨by simp [Path.dotSlashes], short, by simp [Path.dotSlashes]⟩,
    _, ?_, atStart⟩
  exact walk_current atStart (by simp)

namespace Step

/-- Nothing can be found under a path that is too long. -/
theorem not_isObstructed_of_isOverlong
    {root : Path}
    {fileSystem : FileSystem}
    {step : Step}
    (overlong : step.IsOverlong root)
    (usable : ¬ NameIsUnusable step.name) :
    ¬ step.IsObstructed root fileSystem := by
  have refused : FileSystem.checkPath (step.path root) ≠ .ok () := by
    rw [ne_eq, FileSystem.checkPath_eq_ok_iff]
    exact fun accepted => absurd overlong (Nat.not_lt.mpr accepted.2.1)
  have notThere :
      ∀ location, fileSystem.locate (step.path root) ≠ .ok location := by
    intro location located
    unfold FileSystem.locate at located
    split at located
    next => cases located
    next accepted => exact refused accepted
  cases step with
  | makeRoot =>
      exact id
  | openLanguage language =>
      rintro (unusable | ⟨pathExists, _⟩)
      · exact usable unusable
      · unfold FileSystem.pathExists at pathExists
        split at pathExists
        next location located => exact notThere location located
        next => cases pathExists
  | writeArtifact query =>
      rintro (unusable | isDirectory)
      · exact usable unusable
      · exact refused (FileSystem.isDirectory_eq_true_iff.mp isDirectory).1

end Step

/-- A root that leaves no room for a language leaves none for its files. -/
theorem isOverlong_of_mem_languageSteps
    {root : Path}
    {languages : Languages}
    {book : QueryBook}
    (plainLanguages :
      ∀ language ∈ languages.list, language.IsPlain)
    (plainCategories :
      ∀ category ∈ book.categories.list, category.IsPlain)
    (noRoom :
      ∀ language ∈ languages.list,
        FileSystem.maxPathBytes <
          root.text.utf8ByteSize + language.name.utf8ByteSize)
    {step : Step}
    (member : step ∈ languageSteps languages book) :
    step.IsOverlong root := by
  obtain ⟨language, isListed, isStep⟩ := mem_languageSteps.mp member
  have directoryOverlong :
      FileSystem.maxPathBytes <
        (Layout.directory root language).text.utf8ByteSize :=
    Nat.lt_of_lt_of_le (noRoom language isListed)
      (root.utf8ByteSize_join_ge
        (plainLanguages language isListed).relative_name)
  rcases isStep with opens | ⟨category, isListedCategory, writes⟩
  · subst opens
    exact directoryOverlong
  · subst writes
    rw [Step.IsOverlong, Step.path, EffectiveQuery.path,
      language_effective, category_effective]
    have roomForBoth :=
      (Layout.directory root language).utf8ByteSize_join_ge
        (plainCategories category isListedCategory).relative_fileName
    rw [Layout.file]
    omega

/--
How a run over plain names ends: either its root cannot be made, or the first
obstacle in what has then been made stops it, or nothing does.
-/
structure StopsAtFirstObstacle
    (root : Path)
    (languages : Languages)
    (book : QueryBook)
    (makingRoot : FileSystem.Attempt)
    (outcome : RunOutcome) : Prop where
  createRoot_iff :
    ∀ path reason,
      outcome.result = .error (.createRoot path reason) ↔
        path = root ∧ makingRoot.failure? = some reason
  createRoot_leaves :
    makingRoot.failure? ≠ none →
      outcome.fileSystem = makingRoot.fileSystem
  fails_iff :
    makingRoot.failure? = none →
      ((∃ error, outcome.result = .error error) ↔
        ∃ step ∈ languageSteps languages book,
          step.IsBlocked root makingRoot.fileSystem)
  first_obstacle :
    makingRoot.failure? = none →
      ∀ {error},
        outcome.result = .error error →
        ∃ earlier step later reason,
          languageSteps languages book = earlier ++ step :: later ∧
            (∀ other ∈ earlier,
              ¬ other.IsBlocked root makingRoot.fileSystem) ∧
            step.IsBlocked root makingRoot.fileSystem ∧
            error = step.error root reason ∧
            LeavesOnly root earlier makingRoot.fileSystem
              outcome.fileSystem

section Plain

variable
    {root : Path}
    {languages : Languages}
    {book : QueryBook}
    {fileSystem : FileSystem}

/-- A run that stops after its root was made stops at the first obstacle. -/
theorem exists_first_obstacle
    (plainLanguages :
      ∀ language ∈ languages.list, language.IsPlain)
    (plainCategories :
      ∀ category ∈ book.categories.list, category.IsPlain)
    (made : (fileSystem.createDirectories root).failure? = none)
    {step : Step}
    {reason : AccessError}
    (stopped :
      (carryOut root (plan languages book) fileSystem).stopped? =
        some (step, reason)) :
    ∃ earlier later,
      languageSteps languages book = earlier ++ step :: later ∧
        (∀ other ∈ earlier,
          ¬ other.IsBlocked root
            (fileSystem.createDirectories root).fileSystem) ∧
        step.IsBlocked root
          (fileSystem.createDirectories root).fileSystem ∧
        LeavesOnly root earlier
          (fileSystem.createDirectories root).fileSystem
          (carryOut root (plan languages book) fileSystem).fileSystem := by
  rw [carryOut_plan_of_made made] at stopped ⊢
  obtain ⟨⟨base, leftBy⟩, noneBlocked, stopBlocked⟩ :=
    carryOut_languageSteps plainLanguages plainCategories made
  obtain ⟨later, stepsShape⟩ := exists_rest_of_stopped stopped
  refine ⟨_, later, stepsShape, noneBlocked,
    stopBlocked step reason stopped, leftBy.leavesOnly ?_⟩
  intro other member
  apply isPlain_of_mem_languageSteps plainLanguages plainCategories
  rw [stepsShape]
  exact List.mem_append_left _ member

/-- A run that nothing stops has met no obstacle. -/
theorem not_isBlocked_of_unstopped
    (plainLanguages :
      ∀ language ∈ languages.list, language.IsPlain)
    (plainCategories :
      ∀ category ∈ book.categories.list, category.IsPlain)
    (unstopped :
      (carryOut root (plan languages book) fileSystem).stopped? = none)
    {step : Step}
    (member : step ∈ languageSteps languages book) :
    ¬ step.IsBlocked root
      (fileSystem.createDirectories root).fileSystem := by
  have made := made_of_unstopped unstopped
  rw [carryOut_plan_of_made made] at unstopped
  obtain ⟨_, noneBlocked, _⟩ :=
    carryOut_languageSteps plainLanguages plainCategories made
  apply noneBlocked
  rw [completed_carryOut_of_stopped?_eq_none unstopped]
  exact member

/-- Only the root is named by an error about the root. -/
theorem result_eq_createRoot_iff
    (path : Path)
    (reason : AccessError) :
    (writePack root languages book fileSystem).result =
        .error (.createRoot path reason) ↔
      path = root ∧
        (fileSystem.createDirectories root).failure? = some reason := by
  rw [result_eq_error_iff]
  cases failed : (fileSystem.createDirectories root).failure? with
  | some rootReason =>
      rw [carryOut_plan_of_refused failed]
      constructor
      · rintro ⟨step, stepReason, stopped, isError⟩
        injection stopped with sameStop
        injection sameStop with isRoot isReason
        subst isRoot isReason
        injection isError with samePath sameReason
        exact ⟨samePath, congrArg some sameReason.symm⟩
      · rintro ⟨isRoot, sameReason⟩
        injection sameReason with isReason
        exact ⟨.makeRoot, rootReason, rfl, by rw [isRoot, ← isReason]; rfl⟩
  | none =>
      rw [carryOut_plan_of_made failed]
      apply iff_of_false
      · rintro ⟨step, stepReason, stopped, isError⟩
        obtain ⟨later, stepsShape⟩ := exists_rest_of_stopped stopped
        have member : step ∈ languageSteps languages book := by
          rw [stepsShape]
          simp
        obtain ⟨_, _, opens | ⟨_, _, writes⟩⟩ :=
          mem_languageSteps.mp member
        · subst opens
          cases isError
        · subst writes
          cases isError
      · rintro ⟨_, sameReason⟩
        cases sameReason

/--
A run over plain names fails exactly when its root cannot be made or there is
an obstacle. It then names the first one and leaves what comes before it.
-/
theorem writePack_stopsAtFirstObstacle
    (plainLanguages :
      ∀ language ∈ languages.list, language.IsPlain)
    (plainCategories :
      ∀ category ∈ book.categories.list, category.IsPlain) :
    StopsAtFirstObstacle root languages book
      (fileSystem.createDirectories root)
      (writePack root languages book fileSystem) where
  createRoot_iff :=
    result_eq_createRoot_iff
  createRoot_leaves refused := by
    obtain ⟨reason, failed⟩ := Option.ne_none_iff_exists'.mp refused
    rw [fileSystem_writePack, carryOut_plan_of_refused failed]
  fails_iff made := by
    constructor
    · rintro ⟨error, failed⟩
      obtain ⟨step, reason, stopped, _⟩ := result_eq_error_iff.mp failed
      obtain ⟨earlier, later, stepsShape, _, blocked, _⟩ :=
        exists_first_obstacle plainLanguages plainCategories made stopped
      refine ⟨step, ?_, blocked⟩
      rw [stepsShape]
      simp
    · rintro ⟨step, member, blocked⟩
      cases stopped :
          (carryOut root (plan languages book) fileSystem).stopped? with
      | none =>
          exact absurd blocked
            (not_isBlocked_of_unstopped plainLanguages plainCategories
              stopped member)
      | some stop =>
          exact ⟨_, result_eq_error_iff.mpr ⟨stop.1, stop.2, stopped, rfl⟩⟩
  first_obstacle made {error} failed := by
    obtain ⟨step, reason, stopped, isError⟩ :=
      result_eq_error_iff.mp failed
    obtain ⟨earlier, later, stepsShape, noneBlocked, blocked, leaves⟩ :=
      exists_first_obstacle plainLanguages plainCategories made stopped
    rw [fileSystem_writePack]
    exact ⟨earlier, step, later, reason, stepsShape, noneBlocked, blocked,
      isError, leaves⟩

/-- A directory squats where the artifact of the second language belongs. -/
theorem writePack_stopsAtFirstObstacle_squatter :
    let root : Path := ⟨"out"⟩
    let languages : Languages := .ofNames ["go", "rust"]
    let book : QueryBook := ⟨.empty, .ofNames ["functions"]⟩
    let squatted :=
      (FileSystem.bare.createDirectories
        ⟨"out/rust/functions.scm"⟩).fileSystem
    let outcome := writePack root languages book squatted
    (∃ error, outcome.result = .error error) ∧
      StopsAtFirstObstacle root languages book
        (squatted.createDirectories root) outcome := by
  intro root languages book squatted outcome
  have stops :
      StopsAtFirstObstacle root languages book
        (squatted.createDirectories root) outcome :=
    writePack_stopsAtFirstObstacle (by decide) (by decide)
  refine ⟨(stops.fails_iff (by decide +kernel)).mpr ?_, stops⟩
  refine ⟨.writeArtifact (book.effective ⟨"rust"⟩ ⟨"functions"⟩),
    by decide +kernel, Or.inl (Or.inr ?_)⟩
  decide +kernel

/--
A path may be too long although each of its names is short and nothing stands
in its way.
-/
theorem writePack_fails_without_obstruction :
    let root := Path.dotSlashes 4089
    let languages : Languages := .ofNames ["typescript"]
    let book : QueryBook := ⟨.empty, .ofNames ["functions"]⟩
    let makingRoot := FileSystem.blank.createDirectories root
    makingRoot.failure? = none ∧
      (∀ step ∈ languageSteps languages book,
        ¬ step.IsObstructed root makingRoot.fileSystem) ∧
      ∃ error,
        (writePack root languages book .blank).result = .error error := by
  intro root languages book makingRoot
  have made : makingRoot = ⟨.blank, none⟩ :=
    FileSystem.createDirectories_of_hasDirectory
      (Or.inr (FileSystem.blank.isDirectory_dotSlashes (by decide)))
  have plainLanguages :
      ∀ language ∈ languages.list, language.IsPlain := by
    decide
  have plainCategories :
      ∀ category ∈ book.categories.list, category.IsPlain := by
    decide
  have overlong :
      ∀ step ∈ languageSteps languages book, step.IsOverlong root := by
    intro step member
    apply isOverlong_of_mem_languageSteps plainLanguages plainCategories
      ?_ member
    rw [Path.utf8ByteSize_dotSlashes]
    decide
  have usable :
      ∀ step ∈ languageSteps languages book,
        ¬ NameIsUnusable step.name := by
    decide +kernel
  refine ⟨by rw [made], ?_, ?_⟩
  · exact fun step member =>
      Step.not_isObstructed_of_isOverlong (overlong step member)
        (usable step member)
  · cases stopped :
        (carryOut root (plan languages book) .blank).stopped? with
    | none =>
        have member :
            .openLanguage ⟨"typescript"⟩ ∈ languageSteps languages book := by
          decide +kernel
        exact absurd (Or.inr (overlong _ member))
          (not_isBlocked_of_unstopped plainLanguages plainCategories
            stopped member)
    | some stop =>
        exact ⟨_, result_eq_error_iff.mpr ⟨stop.1, stop.2, stopped, rfl⟩⟩

end Plain

end QueryPack
