import QueryPack.FileSystem

namespace QueryPack

namespace FileSystem

/-!
# Walking in a growing file system

A walk that ends in a directory has only been in directories. It is therefore
not disturbed by anything that keeps directories: new entries, new file
contents, even lost files. `LeadsTo` says where the last segment of a path
would be made or written, and it survives in the same way.
-/

/-- The directories of an earlier file system are directories of a later one. -/
structure KeepsDirectories (before after : FileSystem) : Prop where
  workingDirectory_eq :
    after.workingDirectory = before.workingDirectory
  directory_kept :
    ∀ {location : Location},
      before.entryAt? location = some .directory →
      after.entryAt? location = some .directory

namespace KeepsDirectories

/-- A file system keeps its own directories. -/
theorem refl
    (fileSystem : FileSystem) :
    fileSystem.KeepsDirectories fileSystem where
  workingDirectory_eq :=
    rfl
  directory_kept isDirectory :=
    isDirectory

/-- Keeping directories twice keeps them. -/
theorem trans
    {first second third : FileSystem}
    (firstSecond : first.KeepsDirectories second)
    (secondThird : second.KeepsDirectories third) :
    first.KeepsDirectories third where
  workingDirectory_eq :=
    secondThird.workingDirectory_eq.trans firstSecond.workingDirectory_eq
  directory_kept isDirectory :=
    secondThird.directory_kept (firstSecond.directory_kept isDirectory)

/-- Paths begin at the same place. -/
theorem start_eq
    {before after : FileSystem}
    (keeps : before.KeepsDirectories after)
    (path : Path) :
    after.start path = before.start path := by
  simp only [start, keeps.workingDirectory_eq]

end KeepsDirectories

/-- Every path begins in a directory. -/
theorem entryAt?_start
    (fileSystem : FileSystem)
    (path : Path) :
    fileSystem.entryAt? (fileSystem.start path) = some .directory := by
  unfold start
  split
  next => exact fileSystem.root_is_directory
  next => exact fileSystem.workingDirectory_is_directory

/-- The directory around an entry exists. -/
theorem entryAt?_surrounding
    {fileSystem : FileSystem}
    {name : String}
    {location : Location}
    (isThere : fileSystem.entryAt? (name :: location) ≠ none) :
    fileSystem.entryAt? location = some .directory := by
  obtain ⟨entry, found⟩ := Option.ne_none_iff_exists'.mp isThere
  exact fileSystem.surrounding_is_directory found

/-- A step is taken from a directory to an entry that is there. -/
theorem directory_of_step
    {fileSystem : FileSystem}
    {location next : Location}
    {segment : Segment}
    (stepped : fileSystem.step location segment = .ok next) :
    fileSystem.entryAt? location = some .directory := by
  unfold step at stepped
  split at stepped
  next isDirectory => exact isDirectory
  next => cases stepped

/-- A step by name leads to the entry of that name, if it is there. -/
theorem step_name_eq_ok_iff
    {fileSystem : FileSystem}
    {location next : Location}
    {name : String} :
    fileSystem.step location (.name name) = .ok next ↔
      fileSystem.entryAt? location = some .directory ∧
        nameIsTooLong name = false ∧
        fileSystem.entryAt? (name :: location) ≠ none ∧
        next = name :: location := by
  constructor
  · intro stepped
    have isDirectory := directory_of_step stepped
    simp only [step, isDirectory] at stepped
    split at stepped
    next => cases stepped
    next short =>
      split at stepped
      next found =>
        injection stepped with sameLocation
        exact ⟨isDirectory, by simpa using short, by simp [found],
          sameLocation.symm⟩
      next => cases stepped
  · rintro ⟨isDirectory, short, isThere, rfl⟩
    obtain ⟨entry, found⟩ := Option.ne_none_iff_exists'.mp isThere
    simp [step, isDirectory, short, found]

/-- A step to a directory is the same step wherever directories are kept. -/
theorem step_of_keepsDirectories
    {before after : FileSystem}
    (keeps : before.KeepsDirectories after)
    {location next : Location}
    {segment : Segment}
    (stepped : before.step location segment = .ok next)
    (isDirectory : before.entryAt? next = some .directory) :
    after.step location segment = .ok next := by
  have fromDirectory := directory_of_step stepped
  cases segment with
  | current =>
      simpa [step, fromDirectory, keeps.directory_kept fromDirectory]
        using stepped
  | parent =>
      simpa [step, fromDirectory, keeps.directory_kept fromDirectory]
        using stepped
  | name name =>
      obtain ⟨_, short, _, rfl⟩ := step_name_eq_ok_iff.mp stepped
      exact step_name_eq_ok_iff.mpr
        ⟨keeps.directory_kept fromDirectory, short,
          by simp [keeps.directory_kept isDirectory], rfl⟩

/-- One walk after another is a walk along all segments. -/
theorem walk_append
    (fileSystem : FileSystem)
    (location : Location)
    (first second : List Segment) :
    fileSystem.walk location (first ++ second) =
      match fileSystem.walk location first with
      | .ok next => fileSystem.walk next second
      | .error reason => .error reason := by
  induction first generalizing location with
  | nil =>
      rfl
  | cons segment rest inductionHypothesis =>
      rw [List.cons_append, walk, walk]
      cases fileSystem.step location segment with
      | ok next =>
          exact inductionHypothesis next
      | error reason =>
          rfl

/-- A walk that takes a last step takes it from where it led before. -/
theorem exists_step_of_walk_append
    {fileSystem : FileSystem}
    {location final : Location}
    {front : List Segment}
    {segment : Segment}
    (walked :
      fileSystem.walk location (front ++ [segment]) = .ok final) :
    ∃ middle,
      fileSystem.walk location front = .ok middle ∧
        fileSystem.step middle segment = .ok final := by
  rw [walk_append] at walked
  split at walked
  next middle walkedFront =>
    refine ⟨middle, walkedFront, ?_⟩
    rw [walk] at walked
    split at walked
    next next stepped => exact stepped.trans walked
    next => cases walked
  next => cases walked

/-- A walk that ends in a directory has begun in one. -/
theorem directory_of_walk
    {fileSystem : FileSystem}
    {location final : Location}
    {segments : List Segment}
    (walked : fileSystem.walk location segments = .ok final)
    (isDirectory : fileSystem.entryAt? final = some .directory) :
    fileSystem.entryAt? location = some .directory := by
  cases segments with
  | nil =>
      injection walked with sameLocation
      exact sameLocation ▸ isDirectory
  | cons segment rest =>
      rw [walk] at walked
      split at walked
      next stepped => exact directory_of_step stepped
      next => cases walked

/-- A walk to a directory is the same walk wherever directories are kept. -/
theorem walk_of_keepsDirectories
    {before after : FileSystem}
    (keeps : before.KeepsDirectories after)
    {location final : Location}
    {segments : List Segment}
    (walked : before.walk location segments = .ok final)
    (isDirectory : before.entryAt? final = some .directory) :
    after.walk location segments = .ok final := by
  induction segments generalizing location with
  | nil =>
      exact walked
  | cons segment rest inductionHypothesis =>
      rw [walk] at walked ⊢
      split at walked
      next next stepped =>
        rw [step_of_keepsDirectories keeps stepped
          (directory_of_walk walked isDirectory)]
        exact inductionHypothesis walked
      next => cases walked

/-- Segments that only stay lead nowhere else. -/
theorem walk_current
    {fileSystem : FileSystem}
    {location : Location}
    {segments : List Segment}
    (isDirectory : fileSystem.entryAt? location = some .directory)
    (stays : ∀ segment ∈ segments, segment = .current) :
    fileSystem.walk location segments = .ok location := by
  induction segments with
  | nil =>
      rfl
  | cons segment rest inductionHypothesis =>
      have isCurrent : segment = .current :=
        stays segment (by simp)
      subst isCurrent
      simp only [walk, step, isDirectory]
      exact inductionHypothesis
        (fun later member => stays later (by simp [member]))

/-- One more step by name from where a walk has led. -/
theorem walk_append_name
    {fileSystem : FileSystem}
    {location surrounding : Location}
    {segments : List Segment}
    (walked : fileSystem.walk location segments = .ok surrounding)
    (isDirectory : fileSystem.entryAt? surrounding = some .directory)
    (name : String) :
    fileSystem.walk location (segments ++ [.name name]) =
      if nameIsTooLong name then
        .error .nameTooLong
      else
        match fileSystem.entryAt? (name :: surrounding) with
        | some _ => .ok (name :: surrounding)
        | none => .error .notFound := by
  rw [walk_append, walked]
  simp only [walk, step, isDirectory]
  by_cases long : nameIsTooLong name = true
  · simp [long]
  · cases fileSystem.entryAt? (name :: surrounding) <;>
      simp [long]

/-- What a path that denotes a directory has in its favour. -/
theorem isDirectory_eq_true_iff
    {fileSystem : FileSystem}
    {path : Path} :
    fileSystem.isDirectory path = true ↔
      checkPath path = .ok () ∧
        ∃ location,
          fileSystem.walk (fileSystem.start path) path.segments =
              .ok location ∧
            fileSystem.entryAt? location = some .directory := by
  simp only [isDirectory, locate]
  cases checkPath path with
  | error reason =>
      simp
  | ok =>
      cases fileSystem.walk (fileSystem.start path) path.segments with
      | error reason =>
          simp
      | ok location =>
          cases path.endsInSlash <;>
            rcases found : fileSystem.entryAt? location with
              _ | (_ | _ | _) <;>
            simp [found]

/-- A path denotes a directory wherever directories are kept. -/
theorem isDirectory_of_keepsDirectories
    {before after : FileSystem}
    (keeps : before.KeepsDirectories after)
    {path : Path}
    (isDirectory : before.isDirectory path = true) :
    after.isDirectory path = true := by
  rw [isDirectory_eq_true_iff] at isDirectory ⊢
  obtain ⟨accepted, location, walked, atDirectory⟩ := isDirectory
  refine ⟨accepted, location, ?_, keeps.directory_kept atDirectory⟩
  rw [keeps.start_eq]
  exact walk_of_keepsDirectories keeps walked atDirectory

/--
A path leads to a name in a directory: everything before its last segment is
there, and the last segment is a name that an entry can have.
-/
structure LeadsTo
    (fileSystem : FileSystem)
    (path : Path)
    (name : String)
    (surrounding : Location) : Prop where
  accepted :
    checkPath path = .ok ()
  walked :
    fileSystem.walk (fileSystem.start path) path.segments.dropLast =
      .ok surrounding
  isDirectory :
    fileSystem.entryAt? surrounding = some .directory
  lastSegment :
    path.segments.getLast? = some (.name name)
  short :
    nameIsTooLong name = false

namespace LeadsTo

variable
    {fileSystem : FileSystem}
    {path : Path}
    {name : String}
    {surrounding : Location}

/-- A path leads to the same place wherever directories are kept. -/
theorem of_keepsDirectories
    {after : FileSystem}
    (keeps : fileSystem.KeepsDirectories after)
    (leads : fileSystem.LeadsTo path name surrounding) :
    after.LeadsTo path name surrounding where
  accepted :=
    leads.accepted
  walked := by
    rw [keeps.start_eq]
    exact walk_of_keepsDirectories keeps leads.walked leads.isDirectory
  isDirectory :=
    keeps.directory_kept leads.isDirectory
  lastSegment :=
    leads.lastSegment
  short :=
    leads.short

/-- A path leads to one place only. -/
theorem unique
    {otherName : String}
    {otherSurrounding : Location}
    (leads : fileSystem.LeadsTo path name surrounding)
    (otherLeads : fileSystem.LeadsTo path otherName otherSurrounding) :
    name :: surrounding = otherName :: otherSurrounding := by
  have sameSegment :=
    leads.lastSegment.symm.trans otherLeads.lastSegment
  have sameLocation :=
    leads.walked.symm.trans otherLeads.walked
  injection sameSegment with sameSegment
  injection sameSegment with sameName
  injection sameLocation with sameLocation
  rw [sameName, sameLocation]

/-- The segments of a path that leads to a name end in that name. -/
theorem segments_eq
    (leads : fileSystem.LeadsTo path name surrounding) :
    path.segments = path.segments.dropLast ++ [.name name] := by
  obtain ⟨front, segmentsShape⟩ :=
    List.getLast?_eq_some_iff.mp leads.lastSegment
  rw [segmentsShape, List.dropLast_concat]

/-- An entry where the path leads is found. -/
theorem walk_eq
    (leads : fileSystem.LeadsTo path name surrounding)
    (isThere : fileSystem.entryAt? (name :: surrounding) ≠ none) :
    fileSystem.walk (fileSystem.start path) path.segments =
      .ok (name :: surrounding) := by
  obtain ⟨entry, found⟩ := Option.ne_none_iff_exists'.mp isThere
  rw [leads.segments_eq,
    walk_append_name leads.walked leads.isDirectory name, found]
  simp [leads.short]

/-- A path without a slash at its end denotes the entry it leads to. -/
theorem locate_eq
    (leads : fileSystem.LeadsTo path name surrounding)
    (noSlash : path.endsInSlash = false)
    (isThere : fileSystem.entryAt? (name :: surrounding) ≠ none) :
    fileSystem.locate path = .ok (name :: surrounding) := by
  simp [locate, leads.accepted, leads.walk_eq isThere, noSlash]

/-- A path without a slash at its end exists when its entry does. -/
theorem pathExists_eq_true_iff
    (leads : fileSystem.LeadsTo path name surrounding)
    (noSlash : path.endsInSlash = false) :
    fileSystem.pathExists path = true ↔
      fileSystem.entryAt? (name :: surrounding) ≠ none := by
  constructor
  · intro pathThere nothing
    have walked :=
      walk_append_name leads.walked leads.isDirectory name
    rw [← leads.segments_eq, nothing, leads.short] at walked
    simp [pathExists, locate, leads.accepted, walked] at pathThere
  · intro isThere
    simp [pathExists, leads.locate_eq noSlash isThere]

/-- A directory that a path leads to is what the path denotes. -/
theorem isDirectory_eq_true_iff
    (leads : fileSystem.LeadsTo path name surrounding) :
    fileSystem.isDirectory path = true ↔
      fileSystem.entryAt? (name :: surrounding) = some .directory := by
  rw [FileSystem.isDirectory_eq_true_iff]
  constructor
  · rintro ⟨_, location, walked, atDirectory⟩
    have nameWalked :=
      walk_append_name leads.walked leads.isDirectory name
    rw [← leads.segments_eq, walked, leads.short] at nameWalked
    cases found : fileSystem.entryAt? (name :: surrounding) with
    | none =>
        simp [found] at nameWalked
    | some entry =>
        have sameLocation : location = name :: surrounding := by
          simpa [found] using nameWalked
        rw [← found, ← sameLocation]
        exact atDirectory
  · intro found
    exact ⟨leads.accepted, name :: surrounding,
      leads.walk_eq (by simp [found]), found⟩

end LeadsTo

end FileSystem

end QueryPack
