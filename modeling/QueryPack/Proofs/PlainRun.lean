import QueryPack.Proofs.PlainNames

namespace QueryPack

/-!
# How far a run over plain names comes

The steps of a plan over plain names have different places, and each is
prepared by an earlier one. So a run comes exactly as far as the first step
that something stands in the way of before the run begins, and it leaves what
the steps before it are for, each in its place, and nothing else.
-/

/-- The steps of a plan after the root has been made. -/
def languageSteps (languages : Languages) (book : QueryBook) : List Step :=
  languages.list.flatMap (languagePlan book)

/-- Something in the file system or in its own path keeps a step from success. -/
def Step.IsBlocked
    (root : Path)
    (fileSystem : FileSystem)
    (step : Step) : Prop :=
  step.IsObstructed root fileSystem ∨ step.IsOverlong root

/--
What carried out steps have left: the path of each leads to its place, there
stands what the step is for, and everything else is as it was.
-/
structure LeftBy
    (root : Path)
    (base : Location)
    (done : List Step)
    (before after : FileSystem) : Prop where
  workingDirectory_eq :
    after.workingDirectory = before.workingDirectory
  leads :
    ∀ step ∈ done,
      after.LeadsTo (step.path root) step.name (step.surrounding base)
  entryAt?_place :
    ∀ step ∈ done,
      after.entryAt? (step.place base) =
        some (step.leaves (before.entryAt? (step.place base)))
  entryAt?_elsewhere :
    ∀ location,
      (∀ step ∈ done, step.place base ≠ location) →
      after.entryAt? location = before.entryAt? location

namespace LeftBy

variable
    {root : Path}
    {base : Location}
    {done : List Step}
    {before middle after : FileSystem}
    {step : Step}

theorem nil
    (root : Path)
    (base : Location)
    (fileSystem : FileSystem) :
    LeftBy root base [] fileSystem fileSystem where
  workingDirectory_eq :=
    rfl
  leads _ member := by
    cases member
  entryAt?_place _ member := by
    cases member
  entryAt?_elsewhere _ _ :=
    rfl

/-- One more step at a place of its own. -/
theorem concat
    (leftBy : LeftBy root base done before middle)
    (ownPlace : ∀ other ∈ done, other.place base ≠ step.place base)
    (keeps : middle.KeepsDirectories after)
    (leads :
      middle.LeadsTo (step.path root) step.name (step.surrounding base))
    (puts :
      middle.Puts after (step.place base)
        (step.leaves (middle.entryAt? (step.place base)))) :
    LeftBy root base (done ++ [step]) before after where
  workingDirectory_eq :=
    puts.workingDirectory_eq.trans leftBy.workingDirectory_eq
  leads other member := by
    rcases List.mem_append.mp member with inDone | isStep
    · exact (leftBy.leads other inDone).of_keepsDirectories keeps
    · have same : other = step := by simpa using isStep
      exact same ▸ leads.of_keepsDirectories keeps
  entryAt?_place other member := by
    rcases List.mem_append.mp member with inDone | isStep
    · rw [puts.entryAt?_other (ownPlace other inDone).symm]
      exact leftBy.entryAt?_place other inDone
    · have same : other = step := by simpa using isStep
      subst same
      rw [puts.entryAt?_same,
        leftBy.entryAt?_elsewhere _ ownPlace]
  entryAt?_elsewhere location elsewhere := by
    rw [puts.entryAt?_other (elsewhere step (by simp))]
    exact leftBy.entryAt?_elsewhere location
      (fun other member => elsewhere other (by simp [member]))

/-- The path of a step that was carried out denotes its place. -/
theorem locate_path
    (leftBy : LeftBy root base done before after)
    (member : step ∈ done)
    (plain : step.IsPlain) :
    after.locate (step.path root) = .ok (step.place base) := by
  refine (leftBy.leads step member).locate_eq plain.endsInSlash_path ?_
  exact Option.ne_none_iff_exists'.mpr
    ⟨_, leftBy.entryAt?_place step member⟩

end LeftBy

/-- Every write comes after its language was opened. -/
def Prepared : List Language → List Step → Prop
  | _, [] =>
      True
  | opened, .makeRoot :: rest =>
      Prepared opened rest
  | opened, .openLanguage language :: rest =>
      Prepared (language :: opened) rest
  | opened, .writeArtifact query :: rest =>
      query.language ∈ opened ∧ Prepared opened rest

theorem prepared_writes_append
    {opened : List Language}
    {queries : List EffectiveQuery}
    {rest : List Step}
    (queriesOpened : ∀ query ∈ queries, query.language ∈ opened)
    (restPrepared : Prepared opened rest) :
    Prepared opened (queries.map .writeArtifact ++ rest) := by
  induction queries with
  | nil =>
      exact restPrepared
  | cons head tail inductionHypothesis =>
      exact ⟨queriesOpened head List.mem_cons_self,
        inductionHypothesis
          (fun query member =>
            queriesOpened query (List.mem_cons_of_mem _ member))⟩

theorem prepared_flatMap_languagePlan
    (book : QueryBook)
    (opened languages : List Language) :
    Prepared opened (languages.flatMap (languagePlan book)) := by
  induction languages generalizing opened with
  | nil =>
      trivial
  | cons head rest inductionHypothesis =>
      rw [List.flatMap_cons, languagePlan, List.cons_append]
      refine prepared_writes_append ?_ (inductionHypothesis _)
      intro query member
      obtain ⟨category, _, rfl⟩ := List.mem_map.mp member
      simp [language_effective]

theorem mem_languageSteps
    {languages : Languages}
    {book : QueryBook}
    {step : Step} :
    step ∈ languageSteps languages book ↔
      ∃ language ∈ languages.list,
        step = .openLanguage language ∨
          ∃ category ∈ book.categories.list,
            step = .writeArtifact (book.effective language category) := by
  simp [languageSteps, mem_languagePlan]

theorem openLanguage_mem_languageSteps
    {languages : Languages}
    {language : Language}
    (book : QueryBook)
    (isListed : language ∈ languages.list) :
    .openLanguage language ∈ languageSteps languages book :=
  mem_languageSteps.mpr ⟨language, isListed, Or.inl rfl⟩

theorem writeArtifact_mem_languageSteps
    {languages : Languages}
    {book : QueryBook}
    {language : Language}
    {category : Category}
    (isListed : language ∈ languages.list)
    (isListedCategory : category ∈ book.categories.list) :
    .writeArtifact (book.effective language category) ∈
      languageSteps languages book :=
  mem_languageSteps.mpr
    ⟨language, isListed, Or.inr ⟨category, isListedCategory, rfl⟩⟩

/-- All names that a plan takes from a pack are plain. -/
theorem isPlain_of_mem_languageSteps
    {languages : Languages}
    {book : QueryBook}
    (plainLanguages :
      ∀ language ∈ languages.list, language.IsPlain)
    (plainCategories :
      ∀ category ∈ book.categories.list, category.IsPlain)
    {step : Step}
    (member : step ∈ languageSteps languages book) :
    step.IsPlain := by
  obtain ⟨language, isListed, opens | ⟨category, isListedCategory, writes⟩⟩ :=
    mem_languageSteps.mp member
  · subst opens
    exact plainLanguages language isListed
  · subst writes
    rw [Step.IsPlain, language_effective, category_effective]
    exact ⟨plainLanguages language isListed,
      plainCategories category isListedCategory⟩

/-- Steps of a plan have one place only if they are one step. -/
theorem eq_of_place_eq
    {languages : Languages}
    {book : QueryBook}
    {base : Location}
    {first second : Step}
    (firstMember : first ∈ languageSteps languages book)
    (secondMember : second ∈ languageSteps languages book)
    (samePlace : first.place base = second.place base) :
    first = second := by
  obtain ⟨firstLanguage, _, opensFirst | ⟨firstCategory, _, writesFirst⟩⟩ :=
    mem_languageSteps.mp firstMember <;>
  obtain ⟨secondLanguage, _,
      opensSecond | ⟨secondCategory, _, writesSecond⟩⟩ :=
    mem_languageSteps.mp secondMember
  · subst opensFirst opensSecond
    injection samePlace with sameName _
    rcases firstLanguage with ⟨firstName⟩
    rcases secondLanguage with ⟨secondName⟩
    exact congrArg (fun name => Step.openLanguage ⟨name⟩) sameName
  · subst opensFirst writesSecond
    have sameLength := congrArg List.length samePlace
    simp [Step.place, Step.surrounding] at sameLength
  · subst writesFirst opensSecond
    have sameLength := congrArg List.length samePlace
    simp [Step.place, Step.surrounding] at sameLength
  · subst writesFirst writesSecond
    injection samePlace with sameFile sameSurrounding
    injection sameSurrounding with sameName _
    simp only [Step.name, category_effective,
      language_effective] at sameFile sameName
    have sameCategory := Category.fileName_injective sameFile
    have sameLanguage : firstLanguage = secondLanguage := by
      rcases firstLanguage with ⟨firstName⟩
      rcases secondLanguage with ⟨secondName⟩
      exact congrArg Language.mk sameName
    rw [sameCategory, sameLanguage]

theorem nodup_place_languageSteps
    (base : Location)
    (languages : Languages)
    (book : QueryBook) :
    ((languageSteps languages book).map (Step.place base)).Nodup := by
  have noDuplicates : (languageSteps languages book).Nodup :=
    (List.nodup_cons.mp (nodup_plan languages book)).2
  exact noDuplicates.map_on
    (fun _ firstMember _ secondMember samePlace =>
      eq_of_place_eq firstMember secondMember samePlace)

/--
How a run over plain names stands between two steps: the directories of the
opened languages are there, what the done steps are for is in place, and the
steps that are left have places of their own.
-/
structure UnderWay
    (root : Path)
    (base : Location)
    (before : FileSystem)
    (opened : List Language)
    (done rest : List Step)
    (current : FileSystem) : Prop where
  rootAt :
    RootAt root before base
  keeps :
    before.KeepsDirectories current
  leftBy :
    LeftBy root base done before current
  openedReady :
    ∀ language ∈ opened,
      ¬ NameIsUnusable language.name ∧
        current.entryAt? (language.name :: base) = some .directory
  prepared :
    Prepared opened rest
  plain :
    ∀ step ∈ rest, step.IsPlain
  distinct :
    ((done ++ rest).map (Step.place base)).Nodup

namespace UnderWay

variable
    {root : Path}
    {base : Location}
    {before current : FileSystem}
    {opened : List Language}
    {done rest : List Step}
    {step : Step}

theorem currentRootAt
    (underWay :
      UnderWay root base before opened done rest current) :
    RootAt root current base :=
  underWay.rootAt.of_keepsDirectories underWay.keeps

theorem stepPlain
    (underWay :
      UnderWay root base before opened done (step :: rest) current) :
    step.IsPlain :=
  underWay.plain step List.mem_cons_self

/-- The directory that the next step adds its name to is there. -/
theorem ready
    (underWay :
      UnderWay root base before opened done (step :: rest) current) :
    current.entryAt? (step.surrounding base) = some .directory ∧
      step.HasUsableSurrounding := by
  cases step with
  | makeRoot =>
      exact underWay.stepPlain.elim
  | openLanguage language =>
      exact ⟨underWay.currentRootAt.isDirectory, trivial⟩
  | writeArtifact query =>
      obtain ⟨isOpened, _⟩ := underWay.prepared
      exact (underWay.openedReady query.language isOpened).symm

theorem ownPlace
    (underWay :
      UnderWay root base before opened done (step :: rest) current) :
    ∀ other ∈ done, other.place base ≠ step.place base := by
  intro other member
  have distinct := underWay.distinct
  rw [List.map_append, List.nodup_append] at distinct
  exact distinct.2.2 _ (List.mem_map_of_mem member) _
    (List.mem_map_of_mem List.mem_cons_self)

/-- What blocked a step before the run still does, and nothing else. -/
theorem isBlocked_iff
    (underWay :
      UnderWay root base before opened done (step :: rest) current) :
    step.IsBlocked root before ↔
      NameIsUnusable step.name ∨ step.IsOverlong root ∨
        step.IsBlockedBy (current.entryAt? (step.place base)) := by
  rw [underWay.leftBy.entryAt?_elsewhere _ underWay.ownPlace]
  exact underWay.stepPlain.isBlocked_iff underWay.rootAt
    underWay.ready.2

theorem perform_of_blocked
    (underWay :
      UnderWay root base before opened done (step :: rest) current)
    (blocked : step.IsBlocked root before) :
    ∃ reason,
      step.perform root current = ⟨current, some reason⟩ :=
  underWay.stepPlain.perform_of_blocked underWay.currentRootAt
    underWay.ready.1 underWay.ready.2
    (underWay.isBlocked_iff.mp blocked)

/-- The languages that are open after a step, each with its directory. -/
theorem exists_opened
    (underWay :
      UnderWay root base before opened done (step :: rest) current)
    {after : FileSystem}
    (keepsOn : current.KeepsDirectories after)
    (usable : ¬ NameIsUnusable step.name)
    (left :
      after.entryAt? (step.place base) =
        some (step.leaves (current.entryAt? (step.place base)))) :
    ∃ openedAfter,
      (∀ language ∈ openedAfter,
        ¬ NameIsUnusable language.name ∧
          after.entryAt? (language.name :: base) = some .directory) ∧
        Prepared openedAfter rest := by
  have stillReady :
      ∀ language ∈ opened,
        ¬ NameIsUnusable language.name ∧
          after.entryAt? (language.name :: base) = some .directory :=
    fun language member =>
      (underWay.openedReady language member).imp_right
        keepsOn.directory_kept
  have prepared := underWay.prepared
  cases step with
  | makeRoot =>
      exact underWay.stepPlain.elim
  | openLanguage language =>
      refine ⟨language :: opened, ?_, prepared⟩
      intro other member
      rcases List.mem_cons.mp member with isNew | isOld
      · subst isNew
        exact ⟨usable, left⟩
      · exact stillReady other isOld
  | writeArtifact query =>
      exact ⟨opened, stillReady, prepared.2⟩

/-- A step that nothing blocks succeeds, and the run goes on as it stood. -/
theorem perform_of_not_blocked
    (underWay :
      UnderWay root base before opened done (step :: rest) current)
    (notBlocked : ¬ step.IsBlocked root before) :
    ∃ after openedAfter,
      step.perform root current = ⟨after, none⟩ ∧
        UnderWay root base before openedAfter (done ++ [step]) rest
          after := by
  rw [underWay.isBlocked_iff, not_or, not_or] at notBlocked
  obtain ⟨usable, notOverlong, free⟩ := notBlocked
  obtain ⟨surroundingIsDirectory, surroundingUsable⟩ := underWay.ready
  have leads :=
    underWay.stepPlain.leadsTo underWay.currentRootAt
      surroundingIsDirectory surroundingUsable usable notOverlong
  obtain ⟨after, performed, puts⟩ :=
    underWay.stepPlain.perform_of_free underWay.currentRootAt
      surroundingIsDirectory surroundingUsable usable notOverlong free
  have keepsOn : current.KeepsDirectories after := by
    have effect := step.effect_perform root current
    rw [performed] at effect
    exact effect.keepsEntries.toKeepsDirectories
  obtain ⟨openedAfter, readyAfter, preparedAfter⟩ :=
    underWay.exists_opened keepsOn usable puts.entryAt?_same
  refine ⟨after, openedAfter, performed, ?_⟩
  exact
    { rootAt := underWay.rootAt
      keeps := underWay.keeps.trans keepsOn
      leftBy :=
        underWay.leftBy.concat underWay.ownPlace keepsOn leads puts
      openedReady := readyAfter
      prepared := preparedAfter
      plain := fun other member =>
        underWay.plain other (List.mem_cons_of_mem _ member)
      distinct := by simpa using underWay.distinct }

/--
A run over plain names comes as far as the first blocked step and leaves what
the steps before it are for.
-/
theorem carryOut_rest
    (underWay :
      UnderWay root base before opened done rest current) :
    LeftBy root base (done ++ (carryOut root rest current).completed) before
        (carryOut root rest current).fileSystem ∧
      (∀ step ∈ (carryOut root rest current).completed,
        ¬ step.IsBlocked root before) ∧
      ∀ step reason,
        (carryOut root rest current).stopped? = some (step, reason) →
          step.IsBlocked root before := by
  -- Whether a step is blocked is asked of the file system before the run,
  -- so only the present state, not the question, changes from step to step.
  induction rest generalizing current opened done with
  | nil =>
      refine ⟨?_, ?_, ?_⟩
      · simpa [carryOut] using underWay.leftBy
      · intro step member
        cases member
      · intro step reason stopped
        cases stopped
  | cons step rest inductionHypothesis =>
      by_cases blocked : step.IsBlocked root before
      · obtain ⟨reason, performed⟩ := underWay.perform_of_blocked blocked
        rw [carryOut_of_failure performed]
        refine ⟨by simpa using underWay.leftBy, by simp, ?_⟩
        intro other otherReason stopped
        injection stopped with sameStop
        injection sameStop with isStep _
        exact isStep ▸ blocked
      · obtain ⟨after, openedAfter, performed, underWayAfter⟩ :=
          underWay.perform_of_not_blocked blocked
        obtain ⟨leftByAll, noneBlocked, stopBlocked⟩ :=
          inductionHypothesis underWayAfter
        rw [carryOut_of_success performed]
        refine ⟨by simpa using leftByAll, ?_, stopBlocked⟩
        intro other member
        rcases List.mem_cons.mp member with isStep | later
        · exact isStep ▸ blocked
        · exact noneBlocked other later

end UnderWay

section WholeRun

variable
    {root : Path}
    {languages : Languages}
    {book : QueryBook}
    {fileSystem : FileSystem}

/-- A root that cannot be made ends the run. -/
theorem carryOut_plan_of_refused
    {reason : AccessError}
    (refused :
      (fileSystem.createDirectories root).failure? = some reason) :
    carryOut root (plan languages book) fileSystem =
      ⟨[], some (.makeRoot, reason),
        (fileSystem.createDirectories root).fileSystem⟩ :=
  carryOut_of_failure
    (congrArg (FileSystem.Attempt.mk _) refused)

/-- Once the root is made, the languages have their turn. -/
theorem carryOut_plan_of_made
    (made : (fileSystem.createDirectories root).failure? = none) :
    carryOut root (plan languages book) fileSystem =
      ⟨.makeRoot ::
          (carryOut root (languageSteps languages book)
            (fileSystem.createDirectories root).fileSystem).completed,
        (carryOut root (languageSteps languages book)
          (fileSystem.createDirectories root).fileSystem).stopped?,
        (carryOut root (languageSteps languages book)
          (fileSystem.createDirectories root).fileSystem).fileSystem⟩ :=
  carryOut_of_success
    (congrArg (FileSystem.Attempt.mk _) made)

/-- A run that nothing stopped has made its root. -/
theorem made_of_unstopped
    (unstopped :
      (carryOut root (plan languages book) fileSystem).stopped? = none) :
    (fileSystem.createDirectories root).failure? = none := by
  cases failed : (fileSystem.createDirectories root).failure? with
  | none =>
      rfl
  | some reason =>
      rw [carryOut_plan_of_refused failed] at unstopped
      cases unstopped

/-- A run over plain names has just begun when its root has been made. -/
theorem UnderWay.of_rootAt
    {base : Location}
    (plainLanguages :
      ∀ language ∈ languages.list, language.IsPlain)
    (plainCategories :
      ∀ category ∈ book.categories.list, category.IsPlain)
    (rootAt : RootAt root fileSystem base) :
    UnderWay root base fileSystem [] [] (languageSteps languages book)
      fileSystem where
  rootAt :=
    rootAt
  keeps :=
    .refl fileSystem
  leftBy :=
    .nil root base fileSystem
  openedReady := by
    simp
  prepared :=
    prepared_flatMap_languagePlan book [] languages.list
  plain _ member :=
    isPlain_of_mem_languageSteps plainLanguages plainCategories member
  distinct :=
    nodup_place_languageSteps base languages book

/--
A run over plain names whose root is made comes as far as the first blocked
step and leaves what the steps before it are for.
-/
theorem carryOut_languageSteps
    (plainLanguages :
      ∀ language ∈ languages.list, language.IsPlain)
    (plainCategories :
      ∀ category ∈ book.categories.list, category.IsPlain)
    (made : (fileSystem.createDirectories root).failure? = none) :
    let begun := (fileSystem.createDirectories root).fileSystem
    let progress := carryOut root (languageSteps languages book) begun
    (∃ base,
      LeftBy root base progress.completed begun progress.fileSystem) ∧
      (∀ step ∈ progress.completed, ¬ step.IsBlocked root begun) ∧
      ∀ step reason,
        progress.stopped? = some (step, reason) →
          step.IsBlocked root begun := by
  intro begun progress
  obtain ⟨base, rootAt⟩ :=
    RootAt.of_hasDirectory
      (FileSystem.hasDirectory_of_createDirectories made)
  obtain ⟨leftBy, noneBlocked, stopBlocked⟩ :=
    (UnderWay.of_rootAt plainLanguages plainCategories rootAt).carryOut_rest
  exact ⟨⟨base, leftBy⟩, noneBlocked, stopBlocked⟩

end WholeRun

end QueryPack
