import Std.Data.ExtTreeMap
import QueryPack.Path

namespace QueryPack

/-!
# File systems

A file system is a finite tree of directories, files and devices, together
with the working directory that relative paths start from. It is stored flat,
by location; the fields say that every entry lies in a directory, so a value of
this type is always a tree.

The reading operations never change it. Creating one directory and writing one
file either succeed or leave it as it was.
-/

/-- Why an access to the file system fails. -/
inductive AccessError where
  | notFound
  | alreadyExists
  | notADirectory
  | isADirectory
  | nameTooLong
  | nulInPath
  | notUtf8
  | busy
  deriving Repr, DecidableEq

namespace AccessError

def message : AccessError → String
  | notFound => "No such file or directory (os error 2)"
  | alreadyExists => "File exists (os error 17)"
  | notADirectory => "Not a directory (os error 20)"
  | isADirectory => "Is a directory (os error 21)"
  | nameTooLong => "File name too long (os error 36)"
  | nulInPath => "file name contained an unexpected NUL byte"
  | notUtf8 => "stream did not contain valid UTF-8"
  | busy => "Device or resource busy (os error 16)"

end AccessError

/-- What is found at a location. -/
inductive Entry where
  | directory
  | file (content : ByteArray)
  /-- A device that takes every write and holds nothing. -/
  | device

/--
The place of an entry: its name, the name of the directory around it, and so on
outwards. The root is the empty list.
-/
abbrev Location := List String

/-- A tree of entries and a working directory in it. -/
structure FileSystem where
  entries : Std.ExtTreeMap Location Entry
  workingDirectory : Location
  root_is_directory :
    entries[([] : Location)]? = some .directory
  workingDirectory_is_directory :
    entries[workingDirectory]? = some .directory
  surrounding_is_directory :
    ∀ {name : String} {location : Location} {entry : Entry},
      entries[(name :: location : Location)]? = some entry →
        entries[location]? = some .directory

namespace FileSystem

def entryAt? (fileSystem : FileSystem) (location : Location) : Option Entry :=
  fileSystem.entries[location]?

/-- The longest name of an entry, in bytes. -/
def maxNameBytes : Nat := 255

/-- The longest path that is accepted, in bytes. -/
def maxPathBytes : Nat := 4095

def nameIsTooLong (name : String) : Bool :=
  maxNameBytes < name.utf8ByteSize

/-- Refuse a path that cannot denote anything, whatever the tree holds. -/
def checkPath (path : Path) : Except AccessError Unit :=
  if '\x00' ∈ path.text.toList then
    .error .nulInPath
  else if maxPathBytes < path.text.utf8ByteSize then
    .error .nameTooLong
  else if path.text = "" then
    .error .notFound
  else
    .ok ()

/-- Where the steps of a path begin. -/
def start (fileSystem : FileSystem) (path : Path) : Location :=
  if path.isAbsolute then
    []
  else
    fileSystem.workingDirectory

/-- Take one step from a location; only a directory can be stepped from. -/
def step (fileSystem : FileSystem) (location : Location) (segment : Segment) :
    Except AccessError Location :=
  match fileSystem.entryAt? location with
  | some .directory =>
      match segment with
      | .current => .ok location
      | .parent => .ok location.tail
      | .name name =>
          if nameIsTooLong name then
            .error .nameTooLong
          else
            match fileSystem.entryAt? (name :: location) with
            | some _ => .ok (name :: location)
            | none => .error .notFound
  | _ => .error .notADirectory

def walk (fileSystem : FileSystem) :
    Location → List Segment → Except AccessError Location
  | location, [] => .ok location
  | location, segment :: rest =>
      match fileSystem.step location segment with
      | .ok next => fileSystem.walk next rest
      | .error reason => .error reason

/-- The location of the existing entry that a path denotes. -/
def locate (fileSystem : FileSystem) (path : Path) : Except AccessError Location :=
  match checkPath path with
  | .error reason => .error reason
  | .ok () =>
      match fileSystem.walk (fileSystem.start path) path.segments with
      | .error reason => .error reason
      | .ok location =>
          match path.endsInSlash, fileSystem.entryAt? location with
          | false, _ => .ok location
          | true, some .directory => .ok location
          | true, _ => .error .notADirectory

/-- The location that the steps of a path before its last one lead to. -/
def locateSurrounding (fileSystem : FileSystem) (path : Path) :
    Except AccessError Location :=
  match checkPath path with
  | .error reason => .error reason
  | .ok () => fileSystem.walk (fileSystem.start path) path.segments.dropLast

def pathExists (fileSystem : FileSystem) (path : Path) : Bool :=
  match fileSystem.locate path with
  | .ok _ => true
  | .error _ => false

def isDirectory (fileSystem : FileSystem) (path : Path) : Bool :=
  match fileSystem.locate path with
  | .ok location =>
      match fileSystem.entryAt? location with
      | some .directory => true
      | _ => false
  | .error _ => false

/-- The bytes of the file that a path denotes. -/
def readBytes (fileSystem : FileSystem) (path : Path) : Except AccessError ByteArray :=
  match fileSystem.locate path with
  | .error reason => .error reason
  | .ok location =>
      match fileSystem.entryAt? location with
      | some (.file content) => .ok content
      | some .device => .ok .empty
      | some .directory => .error .isADirectory
      | none => .error .notFound

def readText (fileSystem : FileSystem) (path : Path) : Except AccessError String :=
  match fileSystem.readBytes path with
  | .error reason => .error reason
  | .ok content =>
      match String.fromUTF8? content with
      | some text => .ok text
      | none => .error .notUtf8

/-- Put an entry into a directory, where no directory of this name stands. -/
def place (fileSystem : FileSystem) (name : String) (location : Location) (entry : Entry)
    (surrounding : fileSystem.entries[location]? = some .directory)
    (free : fileSystem.entries[(name :: location : Location)]? ≠ some .directory) :
    FileSystem where
  entries := fileSystem.entries.insert (name :: location) entry
  workingDirectory := fileSystem.workingDirectory
  root_is_directory := by
    rw [Std.ExtTreeMap.getElem?_insert]
    simpa using fileSystem.root_is_directory
  workingDirectory_is_directory := by
    rw [Std.ExtTreeMap.getElem?_insert]
    split
    next same =>
      have isHere : name :: location = fileSystem.workingDirectory :=
        Std.LawfulEqOrd.eq_of_compare same
      exact absurd (isHere ▸ fileSystem.workingDirectory_is_directory) free
    next => exact fileSystem.workingDirectory_is_directory
  surrounding_is_directory := by
    intro otherName otherLocation other found
    have keptDirectory :
        ∀ {kept : Location}, fileSystem.entries[kept]? = some .directory →
          (fileSystem.entries.insert (name :: location) entry)[kept]? =
            some .directory := by
      intro kept isDirectory
      rw [Std.ExtTreeMap.getElem?_insert]
      split
      next same =>
        have isHere : name :: location = kept := Std.LawfulEqOrd.eq_of_compare same
        exact absurd (isHere ▸ isDirectory) free
      next => exact isDirectory
    rw [Std.ExtTreeMap.getElem?_insert] at found
    split at found
    next same =>
      have isHere : name :: location = otherName :: otherLocation :=
        Std.LawfulEqOrd.eq_of_compare same
      injection isHere with _ sameLocation
      exact sameLocation ▸ keptDirectory surrounding
    next => exact keptDirectory (fileSystem.surrounding_is_directory found)

/-- Placing an entry changes what is found at its own location only. -/
theorem entryAt?_place (fileSystem : FileSystem) (name : String) (location : Location)
    (entry : Entry) (surrounding : fileSystem.entries[location]? = some .directory)
    (free : fileSystem.entries[(name :: location : Location)]? ≠ some .directory)
    (other : Location) :
    (fileSystem.place name location entry surrounding free).entryAt? other =
      if name :: location = other then some entry else fileSystem.entryAt? other := by
  simp only [entryAt?, place, Std.ExtTreeMap.getElem?_insert, Std.LawfulEqOrd.compare_eq_iff_eq]

/-- Create the directory that a path denotes, inside an existing one. -/
def createDirectory (fileSystem : FileSystem) (path : Path) :
    Except AccessError FileSystem :=
  match fileSystem.locateSurrounding path with
  | .error reason => .error reason
  | .ok location =>
      match surrounding : fileSystem.entries[location]? with
      | some .directory =>
          match path.segments.getLast? with
          | some (.name name) =>
              if nameIsTooLong name then
                .error .nameTooLong
              else
                match free : fileSystem.entries[(name :: location : Location)]? with
                | some _ => .error .alreadyExists
                | none =>
                    .ok (fileSystem.place name location .directory surrounding
                      (by simp [free]))
          | _ => .error .alreadyExists
      | _ => .error .notADirectory

/--
Write a file as a whole, creating it if need be.

The directory around it must exist. A file that is there loses its content; a
device takes the bytes and keeps nothing.
-/
def writeFile (fileSystem : FileSystem) (path : Path) (content : ByteArray) :
    Except AccessError FileSystem :=
  match fileSystem.locateSurrounding path with
  | .error reason => .error reason
  | .ok location =>
      match surrounding : fileSystem.entries[location]? with
      | some .directory =>
          match path.segments.getLast? with
          | some (.name name) =>
              if path.endsInSlash then
                .error .isADirectory
              else if nameIsTooLong name then
                .error .nameTooLong
              else
                match free : fileSystem.entries[(name :: location : Location)]? with
                | some .directory => .error .isADirectory
                | some .device => .ok fileSystem
                | some (.file _) =>
                    .ok (fileSystem.place name location (.file content) surrounding
                      (by simp [free]))
                | none =>
                    .ok (fileSystem.place name location (.file content) surrounding
                      (by simp [free]))
          | _ => .error .isADirectory
      | _ => .error .notADirectory

/-- What an operation of several steps leaves behind, and why it stopped early. -/
structure Attempt where
  fileSystem : FileSystem
  failure? : Option AccessError

namespace Attempt

/-- The outcome of an operation that does all or nothing. -/
def ofExcept (before : FileSystem) : Except AccessError FileSystem → Attempt
  | .ok after => ⟨after, none⟩
  | .error reason => ⟨before, some reason⟩

def succeeded (attempt : Attempt) : Bool :=
  attempt.failure?.isNone

end Attempt

/-- Create a directory; one that is already there is as good as a new one. -/
def ensureDirectory (fileSystem : FileSystem) (path : Path) : Attempt :=
  match fileSystem.createDirectory path with
  | .ok after => ⟨after, none⟩
  | .error reason =>
      if fileSystem.isDirectory path then
        ⟨fileSystem, none⟩
      else
        ⟨fileSystem, some reason⟩

/--
Create a directory and, as far as they are missing, the directories around it.

The path itself is tried first; only if something on the way to it is not found
are its parents created, and then it is tried again. A path without a parent
names no directory that could be missing, so it needs nothing, however it is
written.
-/
def createDirectories (fileSystem : FileSystem) (path : Path) : Attempt :=
  match _found : path.parent? with
  | none => ⟨fileSystem, none⟩
  | some parent =>
      match fileSystem.createDirectory path with
      | .error .notFound =>
          match fileSystem.createDirectories parent with
          | ⟨after, none⟩ => after.ensureDirectory path
          | ⟨after, some reason⟩ => ⟨after, some reason⟩
      | _ => fileSystem.ensureDirectory path
  termination_by path.text.toList.length
  decreasing_by exact Path.length_parent?_lt _found

end FileSystem

end QueryPack
