import QueryPack.Proofs.RunStopping

namespace QueryPack

/-!
# What the steps of a run see

Neither making a directory nor writing a file looks at the bytes that a file
holds. Two file systems of one shape therefore let the same steps through, stop
at the same step for the same reason, and have one shape again afterwards.
-/

/-- What an entry is, whatever bytes it holds. -/
inductive EntryKind where
  | directory
  | file
  | device
  deriving DecidableEq

def Entry.kind : Entry → EntryKind
  | .directory => .directory
  | .file _ => .file
  | .device => .device

namespace FileSystem

def kindAt?
    (fileSystem : FileSystem)
    (location : Location) : Option EntryKind :=
  (fileSystem.entryAt? location).map Entry.kind

/--
Two file systems with the same directories, the same files and the same
devices. The files may hold different bytes.
-/
structure SameShape (first second : FileSystem) : Prop where
  workingDirectory_eq :
    second.workingDirectory = first.workingDirectory
  kindAt?_eq :
    ∀ location, second.kindAt? location = first.kindAt? location

theorem kindAt?_eq_directory_iff
    {fileSystem : FileSystem}
    {location : Location} :
    fileSystem.kindAt? location = some .directory ↔
      fileSystem.entryAt? location = some .directory := by
  unfold kindAt?
  rcases fileSystem.entryAt? location with _ | _ | _ | _ <;>
    simp [Entry.kind]

theorem kindAt?_eq_device_iff
    {fileSystem : FileSystem}
    {location : Location} :
    fileSystem.kindAt? location = some .device ↔
      fileSystem.entryAt? location = some .device := by
  unfold kindAt?
  rcases fileSystem.entryAt? location with _ | _ | _ | _ <;>
    simp [Entry.kind]

/-- Whether a step can be taken shows in the kinds of the entries. -/
theorem step_eq_kindAt?
    (fileSystem : FileSystem)
    (location : Location)
    (segment : Segment) :
    fileSystem.step location segment =
      if fileSystem.kindAt? location = some .directory then
        match segment with
        | .current => .ok location
        | .parent => .ok location.tail
        | .name name =>
            if nameIsTooLong name then
              .error .nameTooLong
            else if fileSystem.kindAt? (name :: location) = none then
              .error .notFound
            else
              .ok (name :: location)
      else
        .error .notADirectory := by
  unfold step
  split
  next isDirectory =>
    rw [if_pos (kindAt?_eq_directory_iff.mpr isDirectory)]
    cases segment with
    | current =>
        rfl
    | parent =>
        rfl
    | name name =>
        cases found : fileSystem.entryAt? (name :: location) <;>
          simp [kindAt?, found]
  next notDirectory =>
    rw [if_neg (mt kindAt?_eq_directory_iff.mp notDirectory)]

namespace SameShape

variable {first second : FileSystem}

theorem refl
    (fileSystem : FileSystem) :
    fileSystem.SameShape fileSystem where
  workingDirectory_eq :=
    rfl
  kindAt?_eq _ :=
    rfl

theorem symm
    (same : first.SameShape second) :
    second.SameShape first where
  workingDirectory_eq :=
    same.workingDirectory_eq.symm
  kindAt?_eq location :=
    (same.kindAt?_eq location).symm

theorem directory_iff
    (same : first.SameShape second)
    {location : Location} :
    second.entryAt? location = some .directory ↔
      first.entryAt? location = some .directory := by
  rw [← kindAt?_eq_directory_iff, same.kindAt?_eq, kindAt?_eq_directory_iff]

theorem device_iff
    (same : first.SameShape second)
    {location : Location} :
    second.entryAt? location = some .device ↔
      first.entryAt? location = some .device := by
  rw [← kindAt?_eq_device_iff, same.kindAt?_eq, kindAt?_eq_device_iff]

theorem start_eq
    (same : first.SameShape second)
    (path : Path) :
    second.start path = first.start path := by
  simp only [start, same.workingDirectory_eq]

/-- A step depends on what is there, not on what it holds. -/
theorem step_eq
    (same : first.SameShape second)
    (location : Location)
    (segment : Segment) :
    second.step location segment = first.step location segment := by
  rw [step_eq_kindAt?, step_eq_kindAt?]
  simp only [same.kindAt?_eq]

theorem walk_eq
    (same : first.SameShape second)
    (location : Location)
    (segments : List Segment) :
    second.walk location segments = first.walk location segments := by
  induction segments generalizing location with
  | nil =>
      rfl
  | cons segment rest inductionHypothesis =>
      rw [walk, walk, same.step_eq]
      cases first.step location segment with
      | ok next =>
          exact inductionHypothesis next
      | error reason =>
          rfl

theorem locate_eq
    (same : first.SameShape second)
    (path : Path) :
    second.locate path = first.locate path := by
  unfold locate
  rw [same.start_eq, same.walk_eq]
  split
  next => rfl
  next =>
    split
    next => rfl
    next location _ =>
      cases path.endsInSlash with
      | false =>
          rfl
      | true =>
          have sameDirectory :
              second.entryAt? location = some .directory ↔
                first.entryAt? location = some .directory :=
            same.directory_iff
          split <;> split <;> simp_all

theorem locateSurrounding_eq
    (same : first.SameShape second)
    (path : Path) :
    second.locateSurrounding path = first.locateSurrounding path := by
  unfold locateSurrounding
  rw [same.start_eq, same.walk_eq]

theorem pathExists_eq
    (same : first.SameShape second)
    (path : Path) :
    second.pathExists path = first.pathExists path := by
  rw [pathExists, pathExists, same.locate_eq]

theorem isDirectory_eq
    (same : first.SameShape second)
    (path : Path) :
    second.isDirectory path = first.isDirectory path := by
  rw [Bool.eq_iff_iff, isDirectory_eq_true_iff, isDirectory_eq_true_iff]
  simp only [same.start_eq, same.walk_eq, same.directory_iff]

/-- Entries of one kind that are put in one place leave one shape. -/
theorem of_puts
    (same : first.SameShape second)
    {firstAfter secondAfter : FileSystem}
    {location : Location}
    {firstEntry secondEntry : Entry}
    (firstPuts : first.Puts firstAfter location firstEntry)
    (secondPuts : second.Puts secondAfter location secondEntry)
    (sameKind : secondEntry.kind = firstEntry.kind) :
    firstAfter.SameShape secondAfter where
  workingDirectory_eq := by
    rw [secondPuts.workingDirectory_eq, firstPuts.workingDirectory_eq,
      same.workingDirectory_eq]
  kindAt?_eq other := by
    have unchanged := same.kindAt?_eq other
    unfold kindAt? at unchanged ⊢
    rw [secondPuts.entryAt?_eq, firstPuts.entryAt?_eq]
    split
    next => simp [sameKind]
    next => exact unchanged

end SameShape

/-- Two operations of several steps that stop for one reason and leave one shape. -/
structure Attempt.SameOutcome (first second : Attempt) : Prop where
  failure?_eq :
    second.failure? = first.failure?
  sameShape :
    first.fileSystem.SameShape second.fileSystem

/-- Why a directory is not created, if it is not. -/
def directoryRefusal?
    (fileSystem : FileSystem)
    (path : Path) : Option AccessError :=
  match fileSystem.locateSurrounding path with
  | .error reason => some reason
  | .ok location =>
      if fileSystem.kindAt? location = some .directory then
        match path.segments.getLast? with
        | some (.name name) =>
            if nameIsTooLong name then
              some .nameTooLong
            else if fileSystem.kindAt? (name :: location) = none then
              none
            else
              some .alreadyExists
        | _ => some .alreadyExists
      else
        some .notADirectory

/-- Why a file is not written, if it is not. -/
def fileRefusal?
    (fileSystem : FileSystem)
    (path : Path) : Option AccessError :=
  match fileSystem.locateSurrounding path with
  | .error reason => some reason
  | .ok location =>
      if fileSystem.kindAt? location = some .directory then
        match path.segments.getLast? with
        | some (.name name) =>
            if path.endsInSlash then
              some .isADirectory
            else if nameIsTooLong name then
              some .nameTooLong
            else if fileSystem.kindAt? (name :: location) = some .directory then
              some .isADirectory
            else
              none
        | _ => some .isADirectory
      else
        some .notADirectory

theorem createDirectory_eq_error_iff
    {fileSystem : FileSystem}
    {path : Path}
    {reason : AccessError} :
    fileSystem.createDirectory path = .error reason ↔
      fileSystem.directoryRefusal? path = some reason := by
  unfold createDirectory directoryRefusal?
  cases fileSystem.locateSurrounding path with
  | error =>
      simp
  | ok location =>
      dsimp only
      split
      next isDirectory =>
        rw [if_pos (kindAt?_eq_directory_iff.mpr isDirectory)]
        rcases path.segments.getLast? with _ | _ | _ | name
        case some.name =>
          cases long : nameIsTooLong name with
          | true =>
              simp [long]
          | false =>
              simp only [long, Bool.false_eq_true, if_false]
              split
              next found => simp [kindAt?, entryAt?, found]
              next free => simp [kindAt?, entryAt?, free]
        all_goals simp
      next notDirectory =>
        rw [if_neg (mt kindAt?_eq_directory_iff.mp notDirectory)]
        simp

theorem writeFile_eq_error_iff
    {fileSystem : FileSystem}
    {path : Path}
    {content : ByteArray}
    {reason : AccessError} :
    fileSystem.writeFile path content = .error reason ↔
      fileSystem.fileRefusal? path = some reason := by
  unfold writeFile fileRefusal?
  cases fileSystem.locateSurrounding path with
  | error =>
      simp
  | ok location =>
      dsimp only
      split
      next isDirectory =>
        rw [if_pos (kindAt?_eq_directory_iff.mpr isDirectory)]
        rcases path.segments.getLast? with _ | _ | _ | name
        case some.name =>
          cases path.endsInSlash with
          | true =>
              simp
          | false =>
              cases long : nameIsTooLong name with
              | true =>
                  simp [long]
              | false =>
                  simp only [long, Bool.false_eq_true, if_false]
                  split
                  next found => simp [kindAt?, entryAt?, found, Entry.kind]
                  next found => simp [kindAt?, entryAt?, found, Entry.kind]
                  next found => simp [kindAt?, entryAt?, found, Entry.kind]
                  next free => simp [kindAt?, entryAt?, free]
        all_goals simp
      next notDirectory =>
        rw [if_neg (mt kindAt?_eq_directory_iff.mp notDirectory)]
        simp

/-- What a file system becomes when a file is written that nothing refuses. -/
theorem writeFile_of_unrefused
    {fileSystem : FileSystem}
    {path : Path}
    (content : ByteArray)
    (unrefused : fileSystem.fileRefusal? path = none) :
    fileSystem.writeFile path content =
      .ok ((fileSystem.writeFile path content).toOption.getD fileSystem) := by
  cases wrote : fileSystem.writeFile path content with
  | error =>
      rw [writeFile_eq_error_iff, unrefused] at wrote
      cases wrote
  | ok =>
      rfl

section CreateDirectories

variable
    {fileSystem : FileSystem}
    {path parent : Path}

theorem createDirectories_of_parentless
    (parentless : path.parent? = none) :
    fileSystem.createDirectories path = ⟨fileSystem, none⟩ := by
  rw [createDirectories]
  split
  next => rfl
  next hasParent =>
    rw [parentless] at hasParent
    cases hasParent

theorem createDirectories_of_missing
    (isParent : path.parent? = some parent)
    (missing : fileSystem.createDirectory path = .error .notFound) :
    fileSystem.createDirectories path =
      match fileSystem.createDirectories parent with
      | ⟨after, none⟩ => after.ensureDirectory path
      | ⟨after, some reason⟩ => ⟨after, some reason⟩ := by
  rw [createDirectories]
  split
  next parentless =>
    rw [parentless] at isParent
    cases isParent
  next other isOther =>
    rw [isParent] at isOther
    injection isOther with isSame
    subst isSame
    rcases fileSystem.createDirectories parent with ⟨after, _ | reason⟩ <;>
      simp only [missing]

theorem createDirectories_of_not_missing
    (isParent : path.parent? = some parent)
    (notMissing : fileSystem.createDirectory path ≠ .error .notFound) :
    fileSystem.createDirectories path = fileSystem.ensureDirectory path := by
  rw [createDirectories]
  split
  next parentless =>
    rw [parentless] at isParent
    cases isParent
  next =>
    split
    next missing => exact absurd missing notMissing
    next => rfl

end CreateDirectories

namespace SameShape

variable {first second : FileSystem}

theorem directoryRefusal?_eq
    (same : first.SameShape second)
    (path : Path) :
    second.directoryRefusal? path = first.directoryRefusal? path := by
  unfold directoryRefusal?
  simp only [same.locateSurrounding_eq, same.kindAt?_eq]

theorem fileRefusal?_eq
    (same : first.SameShape second)
    (path : Path) :
    second.fileRefusal? path = first.fileRefusal? path := by
  unfold fileRefusal?
  simp only [same.locateSurrounding_eq, same.kindAt?_eq]

theorem leadsTo
    (same : first.SameShape second)
    {path : Path}
    {name : String}
    {surrounding : Location}
    (leads : first.LeadsTo path name surrounding) :
    second.LeadsTo path name surrounding where
  accepted :=
    leads.accepted
  walked := by
    rw [same.start_eq, same.walk_eq]
    exact leads.walked
  isDirectory :=
    same.directory_iff.mpr leads.isDirectory
  lastSegment :=
    leads.lastSegment
  short :=
    leads.short

theorem createDirectory_eq_error
    (same : first.SameShape second)
    {path : Path}
    {reason : AccessError}
    (refused : first.createDirectory path = .error reason) :
    second.createDirectory path = .error reason := by
  rw [createDirectory_eq_error_iff] at refused ⊢
  rw [same.directoryRefusal?_eq, refused]

theorem createDirectory_eq_ok
    (same : first.SameShape second)
    {path : Path}
    {firstAfter : FileSystem}
    (made : first.createDirectory path = .ok firstAfter) :
    ∃ secondAfter,
      second.createDirectory path = .ok secondAfter ∧
        firstAfter.SameShape secondAfter := by
  cases secondMade : second.createDirectory path with
  | error reason =>
      rw [same.symm.createDirectory_eq_error secondMade] at made
      cases made
  | ok secondAfter =>
      obtain ⟨name, surrounding, leads, _, puts⟩ :=
        exists_of_createDirectory_eq_ok made
      obtain ⟨secondName, secondSurrounding, secondLeads, _, secondPuts⟩ :=
        exists_of_createDirectory_eq_ok secondMade
      rw [← (same.leadsTo leads).unique secondLeads] at secondPuts
      exact ⟨secondAfter, rfl, same.of_puts puts secondPuts rfl⟩

theorem writeFile_eq_error
    (same : first.SameShape second)
    {path : Path}
    {content : ByteArray}
    {reason : AccessError}
    (refused : first.writeFile path content = .error reason) :
    second.writeFile path content = .error reason := by
  rw [writeFile_eq_error_iff] at refused ⊢
  rw [same.fileRefusal?_eq, refused]

/-- Whatever is written to one file, one shape is left. -/
theorem of_writeFile
    (same : first.SameShape second)
    {path : Path}
    {firstContent secondContent : ByteArray}
    {firstAfter secondAfter : FileSystem}
    (wrote : first.writeFile path firstContent = .ok firstAfter)
    (secondWrote : second.writeFile path secondContent = .ok secondAfter) :
    firstAfter.SameShape secondAfter := by
  obtain ⟨name, surrounding, leads, _, _, puts⟩ :=
    exists_of_writeFile_eq_ok wrote
  obtain ⟨secondName, secondSurrounding, secondLeads, _, _, secondPuts⟩ :=
    exists_of_writeFile_eq_ok secondWrote
  rw [← (same.leadsTo leads).unique secondLeads] at secondPuts
  refine same.of_puts puts secondPuts ?_
  by_cases isDevice : first.entryAt? (name :: surrounding) = some .device
  · rw [isDevice, same.device_iff.mpr isDevice]
    rfl
  · rw [written_of_ne_device isDevice,
      written_of_ne_device (mt same.device_iff.mp isDevice)]
    rfl

theorem writeFile_eq_ok
    (same : first.SameShape second)
    {path : Path}
    {content : ByteArray}
    {firstAfter : FileSystem}
    (wrote : first.writeFile path content = .ok firstAfter) :
    ∃ secondAfter,
      second.writeFile path content = .ok secondAfter ∧
        firstAfter.SameShape secondAfter := by
  -- A refusal on the second disk would be one on the first.
  cases secondWrote : second.writeFile path content with
  | error reason =>
      rw [same.symm.writeFile_eq_error secondWrote] at wrote
      cases wrote
  | ok secondAfter =>
      exact ⟨secondAfter, rfl, same.of_writeFile wrote secondWrote⟩

theorem ensureDirectory_sameOutcome
    (same : first.SameShape second)
    (path : Path) :
    (first.ensureDirectory path).SameOutcome
      (second.ensureDirectory path) := by
  unfold ensureDirectory
  cases made : first.createDirectory path with
  | ok firstAfter =>
      obtain ⟨secondAfter, secondMade, sameAfter⟩ :=
        same.createDirectory_eq_ok made
      rw [secondMade]
      exact ⟨rfl, sameAfter⟩
  | error reason =>
      rw [same.createDirectory_eq_error made, same.isDirectory_eq]
      dsimp only
      split <;> exact ⟨rfl, same⟩

theorem createDirectories_sameOutcome
    (same : first.SameShape second)
    (path : Path) :
    (first.createDirectories path).SameOutcome
      (second.createDirectories path) := by
  fun_induction createDirectories first path with
  | case1 path parentless =>
      rw [createDirectories_of_parentless parentless]
      exact ⟨rfl, same⟩
  | case2 path parent isParent missing after made inductionHypothesis =>
      rw [createDirectories_of_missing isParent
        (same.createDirectory_eq_error missing)]
      rcases secondMade : second.createDirectories parent with
        ⟨secondAfter, _ | _⟩ <;>
        rw [made, secondMade] at inductionHypothesis
      · exact inductionHypothesis.sameShape.ensureDirectory_sameOutcome path
      · cases inductionHypothesis.failure?_eq
  | case3 path parent isParent missing after reason made inductionHypothesis =>
      rw [createDirectories_of_missing isParent
        (same.createDirectory_eq_error missing)]
      rcases secondMade : second.createDirectories parent with
        ⟨secondAfter, _ | _⟩ <;>
        rw [made, secondMade] at inductionHypothesis
      · cases inductionHypothesis.failure?_eq
      · exact inductionHypothesis
  | case4 path parent isParent notMissing =>
      rw [createDirectories_of_not_missing isParent
        (fun missing =>
          notMissing (same.symm.createDirectory_eq_error missing))]
      exact same.ensureDirectory_sameOutcome path

end SameShape

end FileSystem

/-- A step sees nothing of a file system but its shape. -/
theorem Step.perform_sameOutcome
    {first second : FileSystem}
    (same : first.SameShape second)
    (root : Path)
    (step : Step) :
    (step.perform root first).SameOutcome (step.perform root second) := by
  cases step with
  | makeRoot =>
      exact same.createDirectories_sameOutcome root
  | openLanguage language =>
      exact same.createDirectories_sameOutcome _
  | writeArtifact query =>
      rw [perform, perform]
      cases wrote :
          first.writeFile (Layout.file root query.language query.category)
            query.expression.toUTF8 with
      | error reason =>
          rw [same.writeFile_eq_error wrote]
          exact ⟨rfl, same⟩
      | ok firstAfter =>
          obtain ⟨secondAfter, secondWrote, sameAfter⟩ :=
            same.writeFile_eq_ok wrote
          rw [secondWrote]
          exact ⟨rfl, sameAfter⟩

/-- Two runs that came equally far and left one shape. -/
structure Progress.SameOutcome (first second : Progress) : Prop where
  completed_eq :
    second.completed = first.completed
  stopped?_eq :
    second.stopped? = first.stopped?
  sameShape :
    first.fileSystem.SameShape second.fileSystem

/-- A run sees nothing of a file system but its shape. -/
theorem carryOut_sameOutcome
    {first second : FileSystem}
    (same : first.SameShape second)
    (root : Path)
    (steps : List Step) :
    (carryOut root steps first).SameOutcome
      (carryOut root steps second) := by
  induction steps generalizing first second with
  | nil =>
      exact ⟨rfl, rfl, same⟩
  | cons step rest inductionHypothesis =>
      -- Both runs stop here, or both go on from disks of one shape.
      have sameStep := step.perform_sameOutcome same root
      rcases firstPerformed : step.perform root first with
        ⟨firstAfter, firstFailure?⟩
      rcases secondPerformed : step.perform root second with
        ⟨secondAfter, secondFailure?⟩
      rw [firstPerformed, secondPerformed] at sameStep
      obtain ⟨sameFailure, sameAfter⟩ := sameStep
      dsimp only at sameFailure sameAfter
      subst sameFailure
      cases secondFailure? with
      | none =>
          have sameRest := inductionHypothesis sameAfter
          rw [carryOut_of_success firstPerformed,
            carryOut_of_success secondPerformed]
          exact ⟨by rw [sameRest.completed_eq], sameRest.stopped?_eq,
            sameRest.sameShape⟩
      | some reason =>
          rw [carryOut_of_failure firstPerformed,
            carryOut_of_failure secondPerformed]
          exact ⟨rfl, rfl, sameAfter⟩

/-- Writing a pack tells the same wherever the shape is the same. -/
theorem writePack_of_sameShape
    {first second : FileSystem}
    (same : first.SameShape second)
    (root : Path)
    (languages : Languages)
    (book : QueryBook) :
    writePack root languages book second =
      { writePack root languages book first with
        fileSystem := (writePack root languages book second).fileSystem } := by
  have sameRun := carryOut_sameOutcome same root (plan languages book)
  unfold writePack
  rcases firstRun : carryOut root (plan languages book) first with
    ⟨completed, stopped?, firstAfter⟩
  rcases secondRun : carryOut root (plan languages book) second with
    ⟨secondCompleted, secondStopped?, secondAfter⟩
  rw [firstRun, secondRun] at sameRun
  obtain ⟨sameCompleted, sameStop, _⟩ := sameRun
  dsimp only at sameCompleted sameStop
  subst sameCompleted sameStop
  cases secondStopped? <;> rfl

end QueryPack
