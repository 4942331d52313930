import QueryPack.Proofs.PathSegments
import QueryPack.Proofs.Walking

namespace QueryPack

namespace FileSystem

/-!
# What making and writing do

Each operation is described by what it does to the entries, so that nothing
later has to open it. Making directories only adds directories, also when it
stops half way; where it succeeds, making the same directory again changes
nothing. Writing a file changes the entry that the path leads to and no other.
-/

/-- Two file systems are equal when they look the same everywhere. -/
theorem ext_entryAt?
    {first second : FileSystem}
    (sameWorkingDirectory :
      first.workingDirectory = second.workingDirectory)
    (sameEntries :
      ∀ location, first.entryAt? location = second.entryAt? location) :
    first = second := by
  rcases first with ⟨firstEntries, firstWorkingDirectory, _, _, _⟩
  rcases second with ⟨secondEntries, secondWorkingDirectory, _, _, _⟩
  have entriesEq : firstEntries = secondEntries :=
    Std.ExtTreeMap.ext_getElem? sameEntries
  have workingDirectoryEq :
      firstWorkingDirectory = secondWorkingDirectory :=
    sameWorkingDirectory
  subst entriesEq workingDirectoryEq
  rfl

/-- A later file system that differs by one entry. -/
structure Puts
    (before after : FileSystem)
    (location : Location)
    (entry : Entry) : Prop where
  workingDirectory_eq :
    after.workingDirectory = before.workingDirectory
  entryAt?_eq :
    ∀ other,
      after.entryAt? other =
        if location = other then some entry else before.entryAt? other

namespace Puts

variable
    {before after : FileSystem}
    {location : Location}
    {entry : Entry}

/-- The entry stands where it was put. -/
theorem entryAt?_same
    (puts : before.Puts after location entry) :
    after.entryAt? location = some entry := by
  rw [puts.entryAt?_eq, if_pos rfl]

/-- Putting what is there already changes nothing. -/
theorem refl
    (found : before.entryAt? location = some entry) :
    before.Puts before location entry where
  workingDirectory_eq :=
    rfl
  entryAt?_eq other := by
    split
    next same => rw [← same, found]
    next => rfl

/-- Everything else stands as it did. -/
theorem entryAt?_other
    (puts : before.Puts after location entry)
    {other : Location}
    (different : location ≠ other) :
    after.entryAt? other = before.entryAt? other := by
  rw [puts.entryAt?_eq, if_neg different]

end Puts

/-- Placing an entry puts it there. -/
theorem puts_place
    (fileSystem : FileSystem)
    (name : String)
    (location : Location)
    (entry : Entry)
    (surrounding : fileSystem.entries[location]? = some .directory)
    (free :
      fileSystem.entries[(name :: location : Location)]? ≠
        some .directory) :
    fileSystem.Puts
      (fileSystem.place name location entry surrounding free)
      (name :: location) entry where
  workingDirectory_eq :=
    rfl
  entryAt?_eq other :=
    entryAt?_place fileSystem name location entry surrounding free other

/-- A directory is made where the path leads and nothing was. -/
theorem exists_of_createDirectory_eq_ok
    {fileSystem after : FileSystem}
    {path : Path}
    (made : fileSystem.createDirectory path = .ok after) :
    ∃ name surrounding,
      fileSystem.LeadsTo path name surrounding ∧
        fileSystem.entryAt? (name :: surrounding) = none ∧
        fileSystem.Puts after (name :: surrounding) .directory := by
  unfold createDirectory locateSurrounding at made
  cases accepted : checkPath path with
  | error reason =>
      simp [accepted] at made
  | ok =>
      cases walked :
          fileSystem.walk (fileSystem.start path)
            path.segments.dropLast with
      | error reason =>
          simp [accepted, walked] at made
      | ok surrounding =>
          simp only [accepted, walked] at made
          split at made
          next isDirectory =>
            split at made
            next name lastSegment =>
              split at made
              next => cases made
              next short =>
                split at made
                next => cases made
                next free =>
                  injection made with madeShape
                  subst madeShape
                  exact ⟨name, surrounding,
                    { accepted := accepted
                      walked := walked
                      isDirectory := isDirectory
                      lastSegment := lastSegment
                      short := by simpa using short },
                    free, puts_place ..⟩
            next => cases made
          next => cases made

/-- Making a directory where a path leads succeeds unless something is there. -/
theorem LeadsTo.createDirectory_of_free
    {fileSystem : FileSystem}
    {path : Path}
    {name : String}
    {surrounding : Location}
    (leads : fileSystem.LeadsTo path name surrounding)
    (free : fileSystem.entryAt? (name :: surrounding) = none) :
    ∃ after,
      fileSystem.createDirectory path = .ok after ∧
        fileSystem.Puts after (name :: surrounding) .directory := by
  unfold createDirectory locateSurrounding
  simp only [leads.accepted, leads.walked]
  split
  next isDirectory =>
    rw [leads.lastSegment]
    simp only [leads.short, Bool.false_eq_true, if_false]
    split
    next found =>
      simp [entryAt?] at free
      simp [free] at found
    next =>
      exact ⟨_, rfl, puts_place ..⟩
  next notDirectory =>
    exact absurd leads.isDirectory notDirectory

/-- Making a directory that is there already is refused. -/
theorem createDirectory_of_isDirectory
    {fileSystem : FileSystem}
    {path : Path}
    (isDirectory : fileSystem.isDirectory path = true) :
    fileSystem.createDirectory path = .error .alreadyExists := by
  obtain ⟨accepted, location, walked, atDirectory⟩ :=
    isDirectory_eq_true_iff.mp isDirectory
  unfold createDirectory locateSurrounding
  simp only [accepted]
  rcases List.eq_nil_or_concat path.segments with
      noSegment | ⟨front, segment, segmentsShape⟩
  · simp only [noSegment, List.dropLast_nil, walk, List.getLast?_nil]
    have startIsDirectory := fileSystem.entryAt?_start path
    split
    next => rfl
    next notDirectory => exact absurd startIsDirectory notDirectory
  · rw [List.concat_eq_append] at segmentsShape
    rw [segmentsShape] at walked
    obtain ⟨middle, walkedFront, stepped⟩ :=
      exists_step_of_walk_append walked
    rw [segmentsShape, List.dropLast_concat, List.getLast?_concat]
    simp only [walkedFront]
    split
    next =>
      cases segment with
      | current =>
          rfl
      | parent =>
          rfl
      | name name =>
          obtain ⟨_, short, isThere, _⟩ := step_name_eq_ok_iff.mp stepped
          simp only [short, Bool.false_eq_true, if_false]
          split
          next => rfl
          next free => exact absurd free isThere
    next notDirectory =>
      exact absurd (directory_of_step stepped) notDirectory

/-- One place is as it was, or a directory was made where nothing stood. -/
def SameOrMade
    (before after : FileSystem)
    (location : Location) : Prop :=
  after.entryAt? location = before.entryAt? location ∨
    before.entryAt? location = none ∧
      after.entryAt? location = some .directory

namespace SameOrMade

theorem trans
    {first second third : FileSystem}
    {location : Location}
    (firstSecond : first.SameOrMade second location)
    (secondThird : second.SameOrMade third location) :
    first.SameOrMade third location := by
  rcases secondThird with secondSame | ⟨secondFree, thirdMade⟩
  · rw [SameOrMade, secondSame]
    exact firstSecond
  · rcases firstSecond with firstSame | ⟨_, secondMade⟩
    · exact Or.inr ⟨firstSame ▸ secondFree, thirdMade⟩
    · rw [secondMade] at secondFree
      cases secondFree

/-- What was there stays as it was. -/
theorem entryAt?_of_some
    {before after : FileSystem}
    {location : Location}
    (sameOrMade : before.SameOrMade after location)
    {entry : Entry}
    (found : before.entryAt? location = some entry) :
    after.entryAt? location = some entry := by
  rcases sameOrMade with same | ⟨free, _⟩
  · exact same.trans found
  · rw [found] at free
    cases free

/-- Nothing but a directory is made. -/
theorem of_entryAt?_of_ne_directory
    {before after : FileSystem}
    {location : Location}
    (sameOrMade : before.SameOrMade after location)
    {entry : Entry}
    (found : after.entryAt? location = some entry)
    (notDirectory : entry ≠ .directory) :
    before.entryAt? location = some entry := by
  rcases sameOrMade with same | ⟨_, made⟩
  · exact same.symm.trans found
  · rw [made] at found
    injection found with isDirectory
    exact absurd isDirectory.symm notDirectory

end SameOrMade

/-- A later file system that has only more directories. -/
structure AddsDirectories (before after : FileSystem) : Prop where
  workingDirectory_eq :
    after.workingDirectory = before.workingDirectory
  sameOrMade :
    ∀ location, before.SameOrMade after location

namespace AddsDirectories

theorem refl
    (fileSystem : FileSystem) :
    fileSystem.AddsDirectories fileSystem where
  workingDirectory_eq :=
    rfl
  sameOrMade _ :=
    Or.inl rfl

theorem trans
    {first second third : FileSystem}
    (firstSecond : first.AddsDirectories second)
    (secondThird : second.AddsDirectories third) :
    first.AddsDirectories third where
  workingDirectory_eq :=
    secondThird.workingDirectory_eq.trans firstSecond.workingDirectory_eq
  sameOrMade location :=
    (firstSecond.sameOrMade location).trans
      (secondThird.sameOrMade location)

theorem of_puts
    {before after : FileSystem}
    {location : Location}
    (puts : before.Puts after location .directory)
    (free : before.entryAt? location = none) :
    before.AddsDirectories after where
  workingDirectory_eq :=
    puts.workingDirectory_eq
  sameOrMade other := by
    by_cases same : location = other
    · subst other
      exact Or.inr ⟨free, puts.entryAt?_same⟩
    · exact Or.inl (puts.entryAt?_other same)

theorem keepsDirectories
    {before after : FileSystem}
    (adds : before.AddsDirectories after) :
    before.KeepsDirectories after where
  workingDirectory_eq :=
    adds.workingDirectory_eq
  directory_kept {location} :=
    (adds.sameOrMade location).entryAt?_of_some

end AddsDirectories

/--
A path for which making directories has nothing to do: it denotes a directory,
or it has no parent and so names nothing that could be missing.
-/
def HasDirectory (fileSystem : FileSystem) (path : Path) : Prop :=
  path.parent? = none ∨ fileSystem.isDirectory path = true

theorem HasDirectory.of_keepsDirectories
    {before after : FileSystem}
    (keeps : before.KeepsDirectories after)
    {path : Path}
    (has : before.HasDirectory path) :
    after.HasDirectory path :=
  has.imp id (isDirectory_of_keepsDirectories keeps)

/-- From a root that needs nothing, a walk leads to a directory. -/
theorem HasDirectory.exists_walk
    {fileSystem : FileSystem}
    {path : Path}
    (has : fileSystem.HasDirectory path) :
    ∃ location,
      fileSystem.walk (fileSystem.start path) path.segments =
          .ok location ∧
        fileSystem.entryAt? location = some .directory := by
  rcases has with parentless | isDirectory
  · refine ⟨fileSystem.start path, ?_, fileSystem.entryAt?_start path⟩
    exact walk_current (fileSystem.entryAt?_start path)
      (fun _ member => Path.segments_of_parent?_eq_none parentless member)
  · exact (isDirectory_eq_true_iff.mp isDirectory).2

theorem HasDirectory.noNul
    {fileSystem : FileSystem}
    {path : Path}
    (has : fileSystem.HasDirectory path) :
    '\x00' ∉ path.text.toList := by
  rcases has with parentless | isDirectory
  · exact Path.noNul_of_parent?_eq_none parentless
  · intro nulMember
    have accepted := (isDirectory_eq_true_iff.mp isDirectory).1
    simp [checkPath, nulMember] at accepted

theorem ensureDirectory_addsDirectories
    (fileSystem : FileSystem)
    (path : Path) :
    fileSystem.AddsDirectories
      (fileSystem.ensureDirectory path).fileSystem := by
  unfold ensureDirectory
  split
  next after made =>
    obtain ⟨name, surrounding, _, free, puts⟩ :=
      exists_of_createDirectory_eq_ok made
    exact .of_puts puts free
  next =>
    split <;> exact .refl fileSystem

theorem isDirectory_of_ensureDirectory
    {fileSystem : FileSystem}
    {path : Path}
    (ensured : (fileSystem.ensureDirectory path).failure? = none) :
    (fileSystem.ensureDirectory path).fileSystem.isDirectory path =
      true := by
  unfold ensureDirectory at ensured ⊢
  split
  next after made =>
    obtain ⟨name, surrounding, leads, free, puts⟩ :=
      exists_of_createDirectory_eq_ok made
    have adds := AddsDirectories.of_puts puts free
    have afterLeads := leads.of_keepsDirectories adds.keepsDirectories
    exact afterLeads.isDirectory_eq_true_iff.mpr puts.entryAt?_same
  next reason refused =>
    rw [refused] at ensured
    split
    next isDirectory => exact isDirectory
    next notDirectory => simp [notDirectory] at ensured

theorem ensureDirectory_of_isDirectory
    {fileSystem : FileSystem}
    {path : Path}
    (isDirectory : fileSystem.isDirectory path = true) :
    fileSystem.ensureDirectory path = ⟨fileSystem, none⟩ := by
  simp [ensureDirectory, createDirectory_of_isDirectory isDirectory,
    isDirectory]

/-- Making directories adds directories and nothing else, whether it succeeds. -/
theorem createDirectories_addsDirectories
    (fileSystem : FileSystem)
    (path : Path) :
    fileSystem.AddsDirectories
      (fileSystem.createDirectories path).fileSystem := by
  fun_induction createDirectories fileSystem path with
  | case1 => exact .refl fileSystem
  | case2 path parent _ _ after made inductionHypothesis =>
      rw [made] at inductionHypothesis
      exact inductionHypothesis.trans
        (after.ensureDirectory_addsDirectories path)
  | case3 path parent _ _ after reason made inductionHypothesis =>
      rw [made] at inductionHypothesis
      exact inductionHypothesis
  | case4 =>
      exact fileSystem.ensureDirectory_addsDirectories _

/-- Directories that were made without a failure are there. -/
theorem hasDirectory_of_createDirectories
    {fileSystem : FileSystem}
    {path : Path}
    (made : (fileSystem.createDirectories path).failure? = none) :
    (fileSystem.createDirectories path).fileSystem.HasDirectory path := by
  revert made
  fun_cases createDirectories fileSystem path with
  | case1 parentless =>
      intro _
      exact Or.inl parentless
  | case2 _ _ _ after =>
      intro ensured
      exact Or.inr (isDirectory_of_ensureDirectory ensured)
  | case3 =>
      intro made
      cases made
  | case4 =>
      intro ensured
      exact Or.inr (isDirectory_of_ensureDirectory ensured)

/-- Where nothing is missing, making directories changes nothing. -/
theorem createDirectories_of_hasDirectory
    {fileSystem : FileSystem}
    {path : Path}
    (has : fileSystem.HasDirectory path) :
    fileSystem.createDirectories path = ⟨fileSystem, none⟩ := by
  unfold createDirectories
  split
  next => rfl
  next parent isParent =>
    have isDirectory : fileSystem.isDirectory path = true := by
      rcases has with parentless | isDirectory
      · rw [parentless] at isParent
        cases isParent
      · exact isDirectory
    simp only [createDirectory_of_isDirectory isDirectory,
      ensureDirectory_of_isDirectory isDirectory]

/-- Nothing is missing on a way that can be walked. -/
theorem createDirectory_ne_notFound
    {fileSystem : FileSystem}
    {path : Path}
    {surrounding : Location}
    (nonempty : path.text ≠ "")
    (walked :
      fileSystem.walk (fileSystem.start path) path.segments.dropLast =
        .ok surrounding) :
    fileSystem.createDirectory path ≠ .error .notFound := by
  have checked : checkPath path ≠ .error .notFound := by
    unfold checkPath
    split
    next => simp
    next =>
      split
      next => simp
      next => simp
  unfold createDirectory locateSurrounding
  cases accepted : checkPath path with
  | error reason =>
      rw [accepted] at checked
      simpa using checked
  | ok =>
      simp only [walked]
      split
      next =>
        split
        next =>
          split
          next => simp
          next => split <;> simp
        next => simp
      next => simp

/-- A refusal for which no missing parent is to blame is final. -/
theorem createDirectories_of_refused
    {fileSystem : FileSystem}
    {path : Path}
    {reason : AccessError}
    (hasParent : path.parent? ≠ none)
    (refused : fileSystem.createDirectory path = .error reason)
    (notMissing : reason ≠ .notFound)
    (notDirectory : fileSystem.isDirectory path = false) :
    fileSystem.createDirectories path = ⟨fileSystem, some reason⟩ := by
  unfold createDirectories
  split
  next parentless => exact absurd parentless hasParent
  next =>
    split
    next missing =>
      rw [refused] at missing
      injection missing with isMissing
      exact absurd isMissing notMissing
    next => simp [ensureDirectory, refused, notDirectory]

/-- A path that leads to a name has a parent. -/
theorem LeadsTo.parent?_ne_none
    {fileSystem : FileSystem}
    {path : Path}
    {name : String}
    {surrounding : Location}
    (leads : fileSystem.LeadsTo path name surrounding) :
    path.parent? ≠ none := by
  intro parentless
  have isCurrent :=
    Path.segments_of_parent?_eq_none parentless
      (List.mem_of_getLast? leads.lastSegment)
  cases isCurrent

/-- A directory whose surroundings are there is the only one to be made. -/
theorem LeadsTo.createDirectories_of_free
    {fileSystem : FileSystem}
    {path : Path}
    {name : String}
    {surrounding : Location}
    (leads : fileSystem.LeadsTo path name surrounding)
    (free : fileSystem.entryAt? (name :: surrounding) = none) :
    ∃ after,
      fileSystem.createDirectories path = ⟨after, none⟩ ∧
        fileSystem.Puts after (name :: surrounding) .directory := by
  obtain ⟨after, made, puts⟩ := leads.createDirectory_of_free free
  refine ⟨after, ?_, puts⟩
  unfold createDirectories
  split
  next parentless => exact absurd parentless leads.parent?_ne_none
  next => simp [made, ensureDirectory]

end FileSystem

/-- What stands where bytes were written; a device keeps nothing of them. -/
def Entry.written (content : ByteArray) : Option Entry → Entry
  | some .device => .device
  | _ => .file content

namespace FileSystem

theorem leadsTo_of_writeFile_eq_ok
    {fileSystem after : FileSystem}
    {path : Path}
    {content : ByteArray}
    (wrote : fileSystem.writeFile path content = .ok after) :
    ∃ name surrounding,
      fileSystem.LeadsTo path name surrounding ∧
        path.endsInSlash = false := by
  unfold writeFile locateSurrounding at wrote
  cases accepted : checkPath path with
  | error reason =>
      simp [accepted] at wrote
  | ok =>
      cases walked :
          fileSystem.walk (fileSystem.start path)
            path.segments.dropLast with
      | error reason =>
          simp [accepted, walked] at wrote
      | ok surrounding =>
          simp only [accepted, walked] at wrote
          split at wrote
          next isDirectory =>
            split at wrote
            next name lastSegment =>
              split at wrote
              next => cases wrote
              next noSlash =>
                split at wrote
                next => cases wrote
                next short =>
                  exact ⟨name, surrounding,
                    { accepted := accepted
                      walked := walked
                      isDirectory := isDirectory
                      lastSegment := lastSegment
                      short := by simpa using short },
                    by simpa using noSlash⟩
            next => cases wrote
          next => cases wrote

namespace LeadsTo

variable
    {fileSystem : FileSystem}
    {path : Path}
    {name : String}
    {surrounding : Location}

/-- A directory is never written over. -/
theorem writeFile_of_directory
    (leads : fileSystem.LeadsTo path name surrounding)
    (noSlash : path.endsInSlash = false)
    (found :
      fileSystem.entryAt? (name :: surrounding) = some .directory)
    (content : ByteArray) :
    fileSystem.writeFile path content = .error .isADirectory := by
  unfold writeFile locateSurrounding
  simp only [leads.accepted, leads.walked]
  split
  next =>
    simp only [leads.lastSegment, noSlash, leads.short,
      Bool.false_eq_true, if_false]
    unfold entryAt? at found
    split
    next => rfl
    next elsewise => rw [elsewise] at found; cases found
    next elsewise => rw [elsewise] at found; cases found
    next elsewise => rw [elsewise] at found; cases found
  next notDirectory =>
    exact absurd leads.isDirectory notDirectory

/-- Anything that is not a directory can be written where a path leads. -/
theorem exists_writeFile_eq_ok
    (leads : fileSystem.LeadsTo path name surrounding)
    (noSlash : path.endsInSlash = false)
    (notDirectory :
      fileSystem.entryAt? (name :: surrounding) ≠ some .directory)
    (content : ByteArray) :
    ∃ after,
      fileSystem.writeFile path content = .ok after ∧
        fileSystem.Puts after (name :: surrounding)
          (.written content
            (fileSystem.entryAt? (name :: surrounding))) := by
  unfold writeFile locateSurrounding
  simp only [leads.accepted, leads.walked]
  split
  next =>
    simp only [leads.lastSegment, noSlash, leads.short,
      Bool.false_eq_true, if_false]
    split
    next found =>
      exact absurd found notDirectory
    next found =>
      have keepsNothing :
          Entry.written content
              (fileSystem.entryAt? (name :: surrounding)) =
            .device := by
        rw [entryAt?, found, Entry.written]
      rw [keepsNothing]
      exact ⟨fileSystem, rfl, .refl found⟩
    next found =>
      have isFile :
          Entry.written content
              (fileSystem.entryAt? (name :: surrounding)) =
            .file content := by
        rw [entryAt?, found, Entry.written]
        simp
      rw [isFile]
      exact ⟨_, rfl, puts_place ..⟩
    next found =>
      have isFile :
          Entry.written content
              (fileSystem.entryAt? (name :: surrounding)) =
            .file content := by
        rw [entryAt?, found, Entry.written]
        simp
      rw [isFile]
      exact ⟨_, rfl, puts_place ..⟩
  next isElse =>
    exact absurd leads.isDirectory isElse

end LeadsTo

/-- A file is written where the path leads and no directory stands. -/
theorem exists_of_writeFile_eq_ok
    {fileSystem after : FileSystem}
    {path : Path}
    {content : ByteArray}
    (wrote : fileSystem.writeFile path content = .ok after) :
    ∃ name surrounding,
      fileSystem.LeadsTo path name surrounding ∧
        path.endsInSlash = false ∧
        fileSystem.entryAt? (name :: surrounding) ≠ some .directory ∧
        fileSystem.Puts after (name :: surrounding)
          (.written content
            (fileSystem.entryAt? (name :: surrounding))) := by
  obtain ⟨name, surrounding, leads, noSlash⟩ :=
    leadsTo_of_writeFile_eq_ok wrote
  have notDirectory :
      fileSystem.entryAt? (name :: surrounding) ≠ some .directory := by
    intro found
    rw [leads.writeFile_of_directory noSlash found] at wrote
    cases wrote
  obtain ⟨same, wroteSame, puts⟩ :=
    leads.exists_writeFile_eq_ok noSlash notDirectory content
  rw [wrote] at wroteSame
  injection wroteSame with sameFileSystem
  subst sameFileSystem
  exact ⟨name, surrounding, leads, noSlash, notDirectory, puts⟩

/--
A later file system in which everything is still what it was: directories,
files with whatever content, and the same devices.
-/
structure KeepsEntries (before after : FileSystem) : Prop
    extends before.KeepsDirectories after where
  file_kept :
    ∀ {location content},
      before.entryAt? location = some (.file content) →
      ∃ later, after.entryAt? location = some (.file later)
  device_iff :
    ∀ {location},
      after.entryAt? location = some .device ↔
        before.entryAt? location = some .device

namespace KeepsEntries

theorem refl
    (fileSystem : FileSystem) :
    fileSystem.KeepsEntries fileSystem where
  toKeepsDirectories :=
    .refl fileSystem
  file_kept found :=
    ⟨_, found⟩
  device_iff :=
    Iff.rfl

theorem trans
    {first second third : FileSystem}
    (firstSecond : first.KeepsEntries second)
    (secondThird : second.KeepsEntries third) :
    first.KeepsEntries third where
  toKeepsDirectories :=
    firstSecond.toKeepsDirectories.trans secondThird.toKeepsDirectories
  file_kept found := by
    obtain ⟨middle, foundMiddle⟩ := firstSecond.file_kept found
    exact secondThird.file_kept foundMiddle
  device_iff :=
    secondThird.device_iff.trans firstSecond.device_iff

/-- What is there stays there. -/
theorem ne_none
    {before after : FileSystem}
    (keeps : before.KeepsEntries after)
    {location : Location}
    (isThere : before.entryAt? location ≠ none) :
    after.entryAt? location ≠ none := by
  obtain ⟨entry, found⟩ := Option.ne_none_iff_exists'.mp isThere
  cases entry with
  | directory =>
      simp [keeps.directory_kept found]
  | file content =>
      obtain ⟨later, foundLater⟩ := keeps.file_kept found
      simp [foundLater]
  | device =>
      simp [keeps.device_iff.mpr found]

end KeepsEntries

theorem AddsDirectories.keepsEntries
    {before after : FileSystem}
    (adds : before.AddsDirectories after) :
    before.KeepsEntries after where
  toKeepsDirectories :=
    adds.keepsDirectories
  file_kept {location _} found :=
    ⟨_, (adds.sameOrMade location).entryAt?_of_some found⟩
  device_iff {location} :=
    ⟨fun found =>
      (adds.sameOrMade location).of_entryAt?_of_ne_directory
        found (by simp),
      (adds.sameOrMade location).entryAt?_of_some⟩

/-- Writing over anything but a directory keeps everything what it was. -/
theorem Puts.keepsEntries_of_written
    {before after : FileSystem}
    {location : Location}
    {content : ByteArray}
    (puts :
      before.Puts after location
        (.written content (before.entryAt? location)))
    (notDirectory : before.entryAt? location ≠ some .directory) :
    before.KeepsEntries after where
  workingDirectory_eq :=
    puts.workingDirectory_eq
  directory_kept {other} isDirectory := by
    by_cases same : location = other
    · exact absurd (same ▸ isDirectory) notDirectory
    · rw [puts.entryAt?_other same, isDirectory]
  file_kept {other earlier} found := by
    by_cases same : location = other
    · subst other
      exact ⟨content, by rw [puts.entryAt?_same, found]; rfl⟩
    · exact ⟨earlier, by rw [puts.entryAt?_other same, found]⟩
  device_iff {other} := by
    by_cases same : location = other
    · subst other
      rw [puts.entryAt?_same]
      unfold Entry.written
      split
      next found => simp [found]
      next notDevice => simpa using notDevice
    · rw [puts.entryAt?_other same]

/--
A path without a slash at its end leads to something that can be written over.
-/
structure Stores
    (fileSystem : FileSystem)
    (path : Path)
    (location : Location) : Prop where
  leads :
    ∃ name surrounding,
      location = name :: surrounding ∧
        fileSystem.LeadsTo path name surrounding
  noSlash :
    path.endsInSlash = false
  isThere :
    fileSystem.entryAt? location ≠ none
  notDirectory :
    fileSystem.entryAt? location ≠ some .directory

namespace Stores

variable
    {fileSystem : FileSystem}
    {path : Path}
    {location : Location}

theorem locate_eq
    (stores : fileSystem.Stores path location) :
    fileSystem.locate path = .ok location := by
  obtain ⟨name, surrounding, rfl, leads⟩ := stores.leads
  exact leads.locate_eq stores.noSlash stores.isThere

/-- What a path stores is a file, or a device that was there before. -/
theorem exists_file_or_device
    (stores : fileSystem.Stores path location) :
    (∃ content, fileSystem.entryAt? location = some (.file content)) ∨
      fileSystem.entryAt? location = some .device := by
  obtain ⟨entry, found⟩ := Option.ne_none_iff_exists'.mp stores.isThere
  cases entry with
  | directory =>
      exact absurd found stores.notDirectory
  | file content =>
      exact Or.inl ⟨content, found⟩
  | device =>
      exact Or.inr found

/-- A path stores in the same place wherever entries are kept. -/
theorem of_keepsEntries
    {after : FileSystem}
    (keeps : fileSystem.KeepsEntries after)
    (stores : fileSystem.Stores path location) :
    after.Stores path location where
  leads := by
    obtain ⟨name, surrounding, locationShape, leads⟩ := stores.leads
    exact ⟨name, surrounding, locationShape,
      leads.of_keepsDirectories keeps.toKeepsDirectories⟩
  noSlash :=
    stores.noSlash
  isThere :=
    keeps.ne_none stores.isThere
  notDirectory := by
    rcases stores.exists_file_or_device with ⟨content, found⟩ | found
    · obtain ⟨later, foundLater⟩ := keeps.file_kept found
      simp [foundLater]
    · simp [keeps.device_iff.mpr found]

/-- A path stores in one place only, wherever directories are kept. -/
theorem unique_of_keepsDirectories
    {after : FileSystem}
    {later : Location}
    (stores : fileSystem.Stores path location)
    (keeps : fileSystem.KeepsDirectories after)
    (storesLater : after.Stores path later) :
    location = later := by
  obtain ⟨name, surrounding, rfl, leads⟩ := stores.leads
  obtain ⟨laterName, laterSurrounding, rfl, leadsLater⟩ :=
    storesLater.leads
  exact (leads.of_keepsDirectories keeps).unique leadsLater

end Stores

/-- Bytes were written where a path leads, and nothing else changed. -/
structure Writes
    (before after : FileSystem)
    (path : Path)
    (location : Location)
    (content : ByteArray) : Prop where
  stores :
    after.Stores path location
  notDirectory :
    before.entryAt? location ≠ some .directory
  puts :
    before.Puts after location
      (.written content (before.entryAt? location))

theorem Writes.keepsEntries
    {before after : FileSystem}
    {path : Path}
    {location : Location}
    {content : ByteArray}
    (writes : before.Writes after path location content) :
    before.KeepsEntries after :=
  writes.puts.keepsEntries_of_written writes.notDirectory

theorem written_ne_directory
    (content : ByteArray)
    (former : Option Entry) :
    Entry.written content former ≠ .directory := by
  unfold Entry.written
  split <;> simp

theorem content_of_written_eq_file
    {content found : ByteArray}
    {former : Option Entry}
    (isFile : Entry.written content former = .file found) :
    found = content := by
  unfold Entry.written at isFile
  split at isFile
  next => cases isFile
  next =>
    injection isFile with sameContent
    exact sameContent.symm

theorem written_of_ne_device
    {content : ByteArray}
    {former : Option Entry}
    (notDevice : former ≠ some .device) :
    Entry.written content former = .file content := by
  unfold Entry.written
  split
  next => exact absurd rfl notDevice
  next => rfl

/-- What is left by writing depends only on whether a device stands there. -/
theorem written_congr
    {content : ByteArray}
    {first second : Option Entry}
    (sameDevice : first = some .device ↔ second = some .device) :
    Entry.written content first = .written content second := by
  unfold Entry.written
  split
  next => rw [sameDevice.mp rfl]
  next notDevice =>
    split
    next => exact absurd (sameDevice.mpr rfl) (by simpa using notDevice)
    next => rfl

/-- Writing a file writes where the path leads. -/
theorem exists_writes_of_writeFile_eq_ok
    {fileSystem after : FileSystem}
    {path : Path}
    {content : ByteArray}
    (wrote : fileSystem.writeFile path content = .ok after) :
    ∃ location,
      fileSystem.Writes after path location content := by
  obtain ⟨name, surrounding, leads, noSlash, notDirectory, puts⟩ :=
    exists_of_writeFile_eq_ok wrote
  have keeps := puts.keepsEntries_of_written notDirectory
  exact ⟨name :: surrounding,
    { stores :=
        { leads :=
            ⟨name, surrounding, rfl,
              leads.of_keepsDirectories keeps.toKeepsDirectories⟩
          noSlash := noSlash
          isThere := by simp [puts.entryAt?_same]
          notDirectory := by
            simp [puts.entryAt?_same, written_ne_directory] }
      notDirectory := notDirectory
      puts := puts }⟩

/-- A file that holds the bytes of a text is read as this text. -/
theorem readText_eq_of_file
    {fileSystem : FileSystem}
    {path : Path}
    {location : Location}
    {text : String}
    (denotes : fileSystem.locate path = .ok location)
    (found : fileSystem.entryAt? location = some (.file text.toUTF8)) :
    fileSystem.readText path = .ok text := by
  have decoded : String.fromUTF8? text.toUTF8 = some text :=
    dif_pos text.isValidUTF8
  simp only [readText, readBytes, denotes, found, decoded]

end FileSystem

end QueryPack
