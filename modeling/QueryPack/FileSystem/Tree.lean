import QueryPack.FileSystem

namespace QueryPack

namespace FileSystem

/-!
# Whole trees

The file system that holds nothing but a null device and an empty working
directory, the removal of a subtree, and the listing of everything below the
working directory.
-/

/-- A root directory and nothing else. -/
def bare : FileSystem where
  entries := (∅ : Std.ExtTreeMap Location Entry).insert [] .directory
  workingDirectory := []
  root_is_directory := by
    simp
  workingDirectory_is_directory := by
    simp
  surrounding_is_directory := by
    intro name location entry found
    simp at found

/-- Make a directory the one that relative paths start from. -/
def enter (fileSystem : FileSystem) (location : Location)
    (isDirectory : fileSystem.entries[location]? = some .directory) : FileSystem :=
  { fileSystem with
    workingDirectory := location
    workingDirectory_is_directory := isDirectory }

/-- A null device in the directory of devices, and an empty working directory. -/
def blank : FileSystem :=
  let withDevices :=
    bare.place "dev" [] .directory bare.root_is_directory (by simp [bare])
  let withNull :=
    withDevices.place "null" ["dev"] .device
      (by simp [withDevices, place])
      (by simp [withDevices, place, bare])
  let withWork :=
    withNull.place "work" [] .directory withNull.root_is_directory
      (by simp [withNull, withDevices, place, bare])
  withWork.enter ["work"] (by simp [withWork, place])

/-- Make the directory that a path denotes the working directory. -/
def changeDirectory (fileSystem : FileSystem) (path : Path) :
    Except AccessError FileSystem :=
  match fileSystem.locate path with
  | .error reason => .error reason
  | .ok location =>
      match isDirectory : fileSystem.entries[location]? with
      | some .directory => .ok (fileSystem.enter location isDirectory)
      | _ => .error .notADirectory

/-- Whether a location is another one or lies below it. -/
def isWithin (location outer : Location) : Bool :=
  outer.isSuffixOf location

theorem isWithin_eq_true_iff {location outer : Location} :
    isWithin location outer = true ↔ outer <:+ location := by
  simp [isWithin]

/-- Take away an entry and everything below it, away from the working directory. -/
def prune (fileSystem : FileSystem) (target : Location)
    (isIdle : isWithin fileSystem.workingDirectory target = false) : FileSystem where
  entries := fileSystem.entries.filter fun location _ => !isWithin location target
  workingDirectory := fileSystem.workingDirectory
  root_is_directory := by
    have isOutside : isWithin [] target = false := by
      cases target with
      | nil =>
          simp [isWithin] at isIdle
      | cons name outer =>
          simp [isWithin, List.isSuffixOf]
    simp [Std.ExtTreeMap.getElem?_filter, isOutside, fileSystem.root_is_directory]
  workingDirectory_is_directory := by
    simp [Std.ExtTreeMap.getElem?_filter, isIdle, fileSystem.workingDirectory_is_directory]
  surrounding_is_directory := by
    intro name location entry found
    simp only [Std.ExtTreeMap.getElem?_filter'] at found ⊢
    obtain ⟨here, outside⟩ := Option.filter_eq_some_iff.1 found
    refine Option.filter_eq_some_iff.2 ⟨fileSystem.surrounding_is_directory here, ?_⟩
    simp only [Bool.not_eq_true', Bool.eq_false_iff, ne_eq, isWithin_eq_true_iff] at outside ⊢
    exact fun inside => outside (inside.trans (List.suffix_cons name location))

/-- Remove a file, or a directory with all it holds. -/
def remove (fileSystem : FileSystem) (path : Path) : Except AccessError FileSystem :=
  match fileSystem.locate path with
  | .error reason => .error reason
  | .ok location =>
      if isIdle : isWithin fileSystem.workingDirectory location = false then
        .ok (fileSystem.prune location isIdle)
      else
        .error .busy

/-- One line of a listing: a path, with the content if it is a file. -/
structure Listed where
  path : String
  content? : Option ByteArray

/-- The path of a location relative to the working directory, if it lies below it. -/
def relativePath? (fileSystem : FileSystem) (location : Location) : Option String :=
  if isWithin location fileSystem.workingDirectory
      && location != fileSystem.workingDirectory then
    some <| "/".intercalate
      (location.take (location.length - fileSystem.workingDirectory.length)).reverse
  else
    none

/-- Everything below the working directory, ordered by the text of the paths. -/
def listing (fileSystem : FileSystem) : List Listed :=
  (fileSystem.entries.toList.filterMap fun (location, entry) =>
    (fileSystem.relativePath? location).map fun path =>
      { path := path
        content? :=
          match entry with
          | .directory => none
          | .file content => some content
          | .device => some .empty }).mergeSort
    fun first second => (compare first.path second.path).isLE

end FileSystem

end QueryPack
