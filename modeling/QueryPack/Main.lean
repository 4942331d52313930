import QueryPack.FileSystem.Change
import QueryPack.FileSystem.Tree
import QueryPack.Program

namespace QueryPack

/-!
# The executable

The program itself is a function of a file system value. This module copies
into such a value what a command may meet on disk, runs the program on it,
makes the changes on disk, and prints.
-/

/-- Whether the bytes of a file matter, or only that it is there. -/
inductive Reading where
  | content
  | presence
  deriving DecidableEq

/-- Copy what a path denotes on disk, if the file system can take it. -/
def copyEntry (reading : Reading) (fileSystem : FileSystem) (path : Path) : IO FileSystem := do
  let place := (← IO.currentDir) / path.text
  if ← place.isDir then
    return (fileSystem.createDirectory path).toOption.getD fileSystem
  else if ← place.pathExists then
    let content ←
      if reading = .content then
        IO.FS.readBinFile place
      else
        pure ByteArray.empty
    return (fileSystem.writeFile path content).toOption.getD fileSystem
  else
    return fileSystem

/-- Copy what a path and the parents around it denote on disk. -/
def copyPath (reading : Reading) (fileSystem : FileSystem) (path : Path) : IO FileSystem :=
  path.ancestors.foldlM (copyEntry reading) fileSystem

/-- The working directory on disk, without anything in it. -/
def copyWorkingDirectory : IO FileSystem := do
  let here : Path := ⟨(← IO.currentDir).toString⟩
  let around := (FileSystem.bare.createDirectories here).fileSystem
  return (around.changeDirectory here).toOption.getD around

/-- The paths that an accepted command line may touch besides its configuration. -/
def touchedPaths (invocation : Invocation) (fileSystem : FileSystem) : List Path :=
  let attempt :=
    Job.load Wording.brief.diagnose fileSystem invocation.config? invocation.out?
  match invocation.command, attempt with
  | .generate, .ok loaded =>
      let job := loaded.job
      job.root ::
        job.queries.map fun query =>
          Layout.file job.root query.language query.category
  | _, _ => []

/-- What a command line may meet on disk. -/
def copyDisk (arguments : List String) : IO FileSystem := do
  let fileSystem ← copyWorkingDirectory
  match Invocation.ofArguments arguments with
  | .error _ => return fileSystem
  | .ok invocation => do
      let config := invocation.config?.getD starterPath
      let fileSystem ← copyPath .content fileSystem config
      (touchedPaths invocation fileSystem).foldlM (copyPath .presence) fileSystem

/-- Make a change on disk. -/
def makeChange (change : Change) : IO Unit :=
  match change with
  | .directory path => IO.FS.createDir path.text
  | .file path content => IO.FS.writeBinFile path.text content

/-- A time span for people, in whole seconds. -/
def elapsedText (milliseconds : Nat) : String :=
  if milliseconds / 1000 = 1 then
    "1 second"
  else
    toString (milliseconds / 1000) ++ " seconds"

end QueryPack

open QueryPack in
/-- Run the program on the disk. -/
def main (arguments : List String) : IO UInt32 := do
  let start ← IO.monoMsNow
  let before ← copyDisk arguments
  let output ← IO.getStdout
  let palette := if ← output.isTty then Palette.colored else Palette.plain
  let run (elapsed : String) := runProgram .brief palette elapsed arguments before
  (before.changes (run "").fileSystem).forM makeChange
  let outcome := run (elapsedText ((← IO.monoMsNow) - start))
  let errors ← IO.getStderr
  outcome.notices.forM fun notice => errors.putStrLn notice.consoleLine
  output.putStr outcome.output
  errors.putStr outcome.errorOutput
  return outcome.exitCode.toUInt32
