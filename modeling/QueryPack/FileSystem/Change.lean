import QueryPack.FileSystem

namespace QueryPack

/-!
# What changed between two file systems

The directories and files of a later file system that an earlier one does not
hold in the same way, outer ones first, so that they can be made one by one.
-/

/-- One thing to make. -/
inductive Change where
  | directory (path : Path)
  | file (path : Path) (content : ByteArray)

namespace FileSystem

/-- The absolute path of a location. -/
def absolutePath (location : Location) : Path :=
  ⟨"/" ++ "/".intercalate location.reverse⟩

/-- What has to be made so that an entry stands at a location. -/
def changeAt? (before : FileSystem) (location : Location) (entry : Entry) : Option Change :=
  match entry, before.entryAt? location with
  | .directory, some .directory => none
  | .directory, _ => some (.directory (absolutePath location))
  | .device, _ => none
  | .file content, some (.file earlier) =>
      if content.data = earlier.data then
        none
      else
        some (.file (absolutePath location) content)
  | .file content, _ => some (.file (absolutePath location) content)

/-- All changes that lead from one file system to a later one. -/
def changes (before after : FileSystem) : List Change :=
  (after.entries.toList.mergeSort
      fun first second => first.1.length ≤ second.1.length).filterMap
    fun (location, entry) => before.changeAt? location entry

end FileSystem

end QueryPack
