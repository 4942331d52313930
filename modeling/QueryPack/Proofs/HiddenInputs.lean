import QueryPack.Proofs.ConfigurationRoundTrip
import QueryPack.Proofs.LastWriter
import QueryPack.Proofs.ProgramRuns
import QueryPack.Proofs.Shape

namespace QueryPack

/-!
# No hidden inputs

What a run of the program tells and what it writes depend on its command line,
on which directories and files there are, and on the bytes of the configuration
that the command line names. No other byte on the disk has any influence, not
even those of files that are written over.
-/

/-- One writing of a file as a whole. -/
structure FileWrite where
  path : Path
  content : ByteArray

/-- The writing of the artifact that holds a query. -/
def EffectiveQuery.write
    (root : Path)
    (query : EffectiveQuery) : FileWrite where
  path := query.path root
  content := query.expression.toUTF8

/-- The files that a run of a job writes, in order. -/
def Job.writes
    (job : Job)
    (fileSystem : FileSystem) : List FileWrite :=
  (job.written fileSystem).map (EffectiveQuery.write job.root)

/-- The files that a run of the program writes, in order. -/
def Invocation.writes
    (diagnose : String → String)
    (invocation : Invocation)
    (fileSystem : FileSystem) : List FileWrite :=
  match invocation.command with
  | .generate =>
      match invocation.configuration diagnose fileSystem with
      | .error _ => []
      | .ok config? =>
          (Job.ofConfiguration config? invocation.out?).writes fileSystem
  | .init force =>
      let path := invocation.config?.getD starterPath
      match
        Configuration.store fileSystem path starterConfiguration force with
      | .error _ => []
      | .ok _ => [⟨path, starterConfiguration.text.toUTF8⟩]
  | .list => []
  | .showQuery _ _ => []

namespace FileSystem

/--
What is left when the given files were written, in order: the last bytes
written to a place stand there, and every other file is as it was.
-/
structure Wrote
    (writes : List FileWrite)
    (before after : FileSystem) : Prop where
  found :
    ∀ write ∈ writes, ∃ location, after.locate write.path = .ok location
  last_written :
    ∀ {earlier write later location},
      writes = earlier ++ write :: later →
      after.locate write.path = .ok location →
      (∀ other ∈ later, after.locate other.path ≠ .ok location) →
      after.entryAt? location =
        some (.written write.content (before.entryAt? location))
  other_file :
    ∀ {location content},
      (∀ write ∈ writes, after.locate write.path ≠ .ok location) →
      (after.entryAt? location = some (.file content) ↔
        before.entryAt? location = some (.file content))

namespace Wrote

theorem nil
    (fileSystem : FileSystem) :
    Wrote [] fileSystem fileSystem where
  found _ member := by
    cases member
  last_written shape := by
    simp at shape
  other_file _ :=
    Iff.rfl

end Wrote

theorem SameOrMade.file_iff
    {before after : FileSystem}
    {location : Location}
    (sameOrMade : before.SameOrMade after location)
    {content : ByteArray} :
    after.entryAt? location = some (.file content) ↔
      before.entryAt? location = some (.file content) :=
  ⟨fun found => sameOrMade.of_entryAt?_of_ne_directory found (by simp),
    sameOrMade.entryAt?_of_some⟩

/-- One file that was written. -/
theorem wrote_of_writeFile_eq_ok
    {fileSystem after : FileSystem}
    {path : Path}
    {content : ByteArray}
    (wrote : fileSystem.writeFile path content = .ok after) :
    Wrote [⟨path, content⟩] fileSystem after := by
  obtain ⟨location, writes⟩ := exists_writes_of_writeFile_eq_ok wrote
  have denotes := writes.stores.locate_eq
  exact
    { found := by
        simpa using ⟨location, denotes⟩
      last_written := by
        intro earlier write later other shape isDenoted _
        cases earlier with
        | nil =>
            injection shape with isWrite _
            subst isWrite
            have sameLocation :=
              Except.ok.inj (denotes.symm.trans isDenoted)
            subst sameLocation
            exact writes.puts.entryAt?_same
        | cons =>
            simp at shape
      other_file := by
        intro other otherContent untouched
        have elsewhere : location ≠ other := by
          rintro rfl
          exact untouched _ List.mem_cons_self denotes
        rw [writes.puts.entryAt?_other elsewhere] }

end FileSystem

/-- A run of a job writes the queries it says, finished or not. -/
theorem Job.wrote_run
    (job : Job)
    (fileSystem : FileSystem) :
    FileSystem.Wrote (job.writes fileSystem) fileSystem
      (job.run fileSystem).fileSystem := by
  rw [Job.writes, Job.written_eq, Job.fileSystem_run]
  exact
    { found := by
        intro write member
        obtain ⟨query, isWritten, rfl⟩ := List.mem_map.mp member
        obtain ⟨location, stores⟩ := exists_stores_of_mem_written isWritten
        exact ⟨location, stores.locate_eq⟩
      last_written := by
        intro earlier write later location shape denotes last
        obtain ⟨earlierQueries, queries, writtenShape, _, queriesShape⟩ :=
          List.map_eq_append_iff.mp shape
        obtain ⟨query, laterQueries, rfl, rfl, rfl⟩ :=
          List.map_eq_cons_iff.mp queriesShape
        exact entryAt?_of_last_written writtenShape denotes
          (fun other member =>
            last (other.write job.root) (List.mem_map_of_mem member))
      other_file := by
        intro location content untouched
        have sameOrMade :
            fileSystem.SameOrMade
              (carryOut job.root (plan job.languages job.book)
                fileSystem).fileSystem location :=
          sameOrMade_of_not_written fun query member =>
            untouched (query.write job.root) (List.mem_map_of_mem member)
        exact sameOrMade.file_iff }

section Shape

variable
    {diagnose : String → String}
    {first second : FileSystem}
    {invocation : Invocation}

theorem load_of_sameShape
    (same : first.SameShape second)
    {path : Path}
    (sameBytes : second.readBytes path = first.readBytes path) :
    Configuration.load diagnose second path =
      Configuration.load diagnose first path := by
  unfold Configuration.load FileSystem.readText
  rw [same.pathExists_eq, sameBytes]

theorem configuration_of_sameShape
    (same : first.SameShape second)
    (sameConfig :
      ∀ path,
        invocation.config? = some path →
        second.readBytes path = first.readBytes path) :
    invocation.configuration diagnose second =
      invocation.configuration diagnose first := by
  unfold Invocation.configuration
  split
  next => rfl
  next path named => exact load_of_sameShape same (sameConfig path named)

/-- Two commands that tell the same and leave one shape. -/
structure CommandOutcome.TellsSame (first second : CommandOutcome) : Prop where
  failure?_eq :
    second.failure? = first.failure?
  output_eq :
    second.output = first.output
  notices_eq :
    second.notices = first.notices
  sameShape :
    first.fileSystem.SameShape second.fileSystem

theorem run_of_sameShape
    (same : first.SameShape second)
    (job : Job) :
    job.run second =
      { job.run first with fileSystem := (job.run second).fileSystem } := by
  unfold Job.run
  rw [writePack_of_sameShape same]

theorem generate_tellsSame
    (same : first.SameShape second)
    (presentation : Presentation)
    (job : Job) :
    (job.generate presentation first).TellsSame
      (job.generate presentation second) where
  failure?_eq := by
    rw [failure?_generate, failure?_generate, run_of_sameShape same]
  output_eq := by
    rw [output_generate, output_generate, run_of_sameShape same]
  notices_eq := by
    rw [notices_generate, notices_generate, run_of_sameShape same]
  sameShape := by
    rw [fileSystem_generate, fileSystem_generate, job.fileSystem_run,
      job.fileSystem_run]
    exact (carryOut_sameOutcome same _ _).sameShape

section Store

variable
    {path : Path}
    {config : Configuration}
    {force : Bool}

theorem store_eq_error_of_sameShape
    (same : first.SameShape second)
    {failure : StoreError}
    (failed :
      Configuration.store first path config force = .error failure) :
    Configuration.store second path config force = .error failure := by
  unfold Configuration.store at failed ⊢
  rw [same.pathExists_eq]
  split at failed
  next taken =>
    rw [if_pos taken]
    exact failed
  next free =>
    rw [if_neg free]
    split at failed
    next => cases failed
    next reason refused =>
      rw [same.writeFile_eq_error refused]
      exact failed

theorem store_eq_ok_of_sameShape
    (same : first.SameShape second)
    {firstAfter : FileSystem}
    (stored :
      Configuration.store first path config force = .ok firstAfter) :
    ∃ secondAfter,
      Configuration.store second path config force = .ok secondAfter ∧
        firstAfter.SameShape secondAfter := by
  obtain ⟨wroteAfter, wrote, sameAfter⟩ :=
    same.writeFile_eq_ok (Configuration.writeFile_of_store stored)
  cases secondStored : Configuration.store second path config force with
  | error failure =>
      rw [store_eq_error_of_sameShape same.symm secondStored] at stored
      cases stored
  | ok secondAfter =>
      rw [Configuration.writeFile_of_store secondStored] at wrote
      injection wrote with isSame
      subst isSame
      exact ⟨secondAfter, rfl, sameAfter⟩

theorem writeStarter_tellsSame
    (same : first.SameShape second)
    (presentation : Presentation) :
    (writeStarter presentation path force first).TellsSame
      (writeStarter presentation path force second) := by
  unfold writeStarter
  cases stored :
      Configuration.store first path starterConfiguration force with
  | error failure =>
      rw [store_eq_error_of_sameShape same stored]
      exact ⟨rfl, rfl, rfl, same⟩
  | ok firstAfter =>
      obtain ⟨secondAfter, secondStored, sameAfter⟩ :=
        store_eq_ok_of_sameShape same stored
      rw [secondStored]
      exact ⟨rfl, rfl, rfl, sameAfter⟩

end Store

theorem withJob_tellsSame
    (same : first.SameShape second)
    (sameConfiguration :
      invocation.configuration diagnose second =
        invocation.configuration diagnose first)
    {command : Job → FileSystem → CommandOutcome}
    (tellsSame : ∀ job, (command job first).TellsSame (command job second)) :
    (withJob diagnose invocation first command).TellsSame
      (withJob diagnose invocation second command) := by
  cases configured : invocation.configuration diagnose first with
  | error error =>
      rw [configured] at sameConfiguration
      rw [withJob_of_config_error configured,
        withJob_of_config_error sameConfiguration]
      exact ⟨rfl, rfl, rfl, same⟩
  | ok config? =>
      rw [configured] at sameConfiguration
      rw [withJob_of_configuration configured,
        withJob_of_configuration sameConfiguration]
      have sameCommand :=
        tellsSame (Job.ofConfiguration config? invocation.out?)
      exact ⟨sameCommand.failure?_eq, sameCommand.output_eq,
        congrArg (invocation.missingNotices config? ++ ·)
          sameCommand.notices_eq,
        sameCommand.sameShape⟩

/-- Of the bytes on a disk, a command sees those of its configuration only. -/
theorem outcome_tellsSame
    (same : first.SameShape second)
    (sameConfiguration :
      invocation.configuration diagnose second =
        invocation.configuration diagnose first)
    (palette : Palette)
    (elapsed : String) :
    (invocation.outcome diagnose palette elapsed first).TellsSame
      (invocation.outcome diagnose palette elapsed second) := by
  unfold Invocation.outcome Invocation.execute
  cases invocation.command with
  | generate =>
      exact withJob_tellsSame same sameConfiguration
        (generate_tellsSame same _)
  | list =>
      exact withJob_tellsSame same sameConfiguration
        (fun _ => ⟨rfl, rfl, rfl, same⟩)
  | showQuery language category =>
      exact withJob_tellsSame same sameConfiguration
        (fun _ => ⟨rfl, rfl, rfl, same⟩)
  | init force =>
      exact writeStarter_tellsSame same _

theorem writes_of_sameShape
    (same : first.SameShape second)
    (sameConfiguration :
      invocation.configuration diagnose second =
        invocation.configuration diagnose first) :
    invocation.writes diagnose second = invocation.writes diagnose first := by
  unfold Invocation.writes
  cases invocation.command with
  | generate =>
      dsimp only
      rw [sameConfiguration]
      cases invocation.configuration diagnose first with
      | error =>
          rfl
      | ok config? =>
          dsimp only
          unfold Job.writes Job.written
          rw [run_of_sameShape same]
          rfl
  | list =>
      rfl
  | showQuery =>
      rfl
  | init force =>
      dsimp only
      cases stored :
          Configuration.store first (invocation.config?.getD starterPath)
            starterConfiguration force with
      | error failure =>
          rw [store_eq_error_of_sameShape same stored]
      | ok firstAfter =>
          obtain ⟨secondAfter, secondStored, _⟩ :=
            store_eq_ok_of_sameShape same stored
          rw [secondStored]

end Shape

/-- A run of the program writes the files it says and no others. -/
theorem wrote_outcome
    (diagnose : String → String)
    (invocation : Invocation)
    (palette : Palette)
    (elapsed : String)
    (fileSystem : FileSystem) :
    FileSystem.Wrote (invocation.writes diagnose fileSystem) fileSystem
      (invocation.outcome diagnose palette elapsed fileSystem).fileSystem := by
  unfold Invocation.outcome Invocation.execute Invocation.writes
  cases invocation.command with
  | generate =>
      dsimp only
      cases configured : invocation.configuration diagnose fileSystem with
      | error =>
          rw [withJob_of_config_error configured]
          exact .nil fileSystem
      | ok =>
          rw [withJob_of_configuration configured]
          dsimp only
          rw [fileSystem_generate]
          exact Job.wrote_run _ fileSystem
  | list =>
      dsimp only
      rw [fileSystem_withJob_of_idle (fun _ => rfl)]
      exact .nil fileSystem
  | showQuery =>
      dsimp only
      rw [fileSystem_withJob_of_idle (fun _ => rfl)]
      exact .nil fileSystem
  | init force =>
      dsimp only
      unfold writeStarter
      cases stored :
          Configuration.store fileSystem (invocation.config?.getD starterPath)
            starterConfiguration force with
      | error =>
          exact .nil fileSystem
      | ok =>
          exact FileSystem.wrote_of_writeFile_eq_ok
            (Configuration.writeFile_of_store stored)

namespace FileSystem

/--
What both of two disks of one shape were written to is the same on both.

The last write to a place decides, and it is the same one on both.
-/
theorem Wrote.exists_same_entry
    {writes : List FileWrite}
    {first second firstAfter secondAfter : FileSystem}
    (firstWrote : Wrote writes first firstAfter)
    (secondWrote : Wrote writes second secondAfter)
    (same : first.SameShape second)
    (sameAfter : firstAfter.SameShape secondAfter)
    {write : FileWrite}
    (member : write ∈ writes) :
    ∃ location,
      firstAfter.locate write.path = .ok location ∧
        secondAfter.locate write.path = .ok location ∧
        secondAfter.entryAt? location = firstAfter.entryAt? location := by
  obtain ⟨location, denotes⟩ := firstWrote.found write member
  have denotesSecond : secondAfter.locate write.path = .ok location := by
    rw [sameAfter.locate_eq, denotes]
  refine ⟨location, denotes, denotesSecond, ?_⟩
  -- The path of the write may not be the last one that leads here.
  obtain ⟨earlier, lastWrite, later, shape, isHere, last⟩ :=
    exists_last_of_exists_mem
      (⟨write, member, denotes⟩ :
        ∃ other ∈ writes, firstAfter.locate other.path = .ok location)
  have lastSecond :
      ∀ other ∈ later, secondAfter.locate other.path ≠ .ok location := by
    intro other isLater
    rw [sameAfter.locate_eq]
    exact last other isLater
  have isHereSecond : secondAfter.locate lastWrite.path = .ok location := by
    rw [sameAfter.locate_eq, isHere]
  rw [firstWrote.last_written shape isHere last,
    secondWrote.last_written shape isHereSecond lastSecond,
    written_congr same.device_iff]

end FileSystem

/-- Two runs of one command line that cannot be told apart but by what they left alone. -/
structure RunsAlike
    (diagnose : String → String)
    (invocation : Invocation)
    (first second : FileSystem)
    (firstOutcome secondOutcome : ProgramOutcome) : Prop where
  exitCode_eq :
    secondOutcome.exitCode = firstOutcome.exitCode
  output_eq :
    secondOutcome.output = firstOutcome.output
  errorOutput_eq :
    secondOutcome.errorOutput = firstOutcome.errorOutput
  notices_eq :
    secondOutcome.notices = firstOutcome.notices
  writes_eq :
    invocation.writes diagnose second = invocation.writes diagnose first
  first_wrote :
    FileSystem.Wrote (invocation.writes diagnose first) first
      firstOutcome.fileSystem
  second_wrote :
    FileSystem.Wrote (invocation.writes diagnose second) second
      secondOutcome.fileSystem
  written_alike :
    ∀ write ∈ invocation.writes diagnose first,
      ∃ location,
        firstOutcome.fileSystem.locate write.path = .ok location ∧
          secondOutcome.fileSystem.locate write.path = .ok location ∧
          secondOutcome.fileSystem.entryAt? location =
            firstOutcome.fileSystem.entryAt? location
  sameShape :
    firstOutcome.fileSystem.SameShape secondOutcome.fileSystem

/--
Of all the bytes on a disk, a run depends on those of the configuration that
its command line names, and on no others.
-/
theorem runProgram_runsAlike
    {arguments : List String}
    {invocation : Invocation}
    (accepted : Invocation.ofArguments arguments = .ok invocation)
    {first second : FileSystem}
    (same : first.SameShape second)
    (sameConfig :
      ∀ path,
        invocation.config? = some path →
        second.readBytes path = first.readBytes path)
    (wording : Wording)
    (palette : Palette)
    (elapsed : String) :
    RunsAlike wording.diagnose invocation first second
      (runProgram wording palette elapsed arguments first)
      (runProgram wording palette elapsed arguments second) := by
  have sameConfiguration :
      invocation.configuration wording.diagnose second =
        invocation.configuration wording.diagnose first :=
    configuration_of_sameShape same sameConfig
  have sameOutcome :=
    outcome_tellsSame same sameConfiguration palette elapsed
  have sameWrites := writes_of_sameShape same sameConfiguration
  have firstWrote :=
    wrote_outcome wording.diagnose invocation palette elapsed first
  have secondWrote :=
    wrote_outcome wording.diagnose invocation palette elapsed second
  rw [runProgram_of_accepted accepted, runProgram_of_accepted accepted,
    run_eq, run_eq]
  exact
    { exitCode_eq := by
        simp only [sameOutcome.failure?_eq]
      output_eq := by
        simp only [sameOutcome.failure?_eq, sameOutcome.output_eq]
      errorOutput_eq := by
        simp only [sameOutcome.failure?_eq]
      notices_eq := by
        simp only [sameOutcome.notices_eq]
      writes_eq := sameWrites
      first_wrote := firstWrote
      second_wrote := secondWrote
      written_alike := by
        rw [sameWrites] at secondWrote
        intro write member
        exact firstWrote.exists_same_entry secondWrote same
          sameOutcome.sameShape member
      sameShape := sameOutcome.sameShape }

/-- Generating with a named configuration, beside notes that say this or that. -/
theorem runProgram_runsAlike_notes :
    let config : Path := ⟨"pack.toml"⟩
    let notes : Path := ⟨"notes.txt"⟩
    let wording : Wording := .brief
    ∃ around first second,
      FileSystem.bare.writeFile config "output = \"here\"".toUTF8 =
          .ok around ∧
        around.writeFile notes "one".toUTF8 = .ok first ∧
        around.writeFile notes "another".toUTF8 = .ok second ∧
        first.readBytes notes ≠ second.readBytes notes ∧
        RunsAlike wording.diagnose
          ⟨.generate, false, false, .human, some config, none⟩ first second
          (runProgram wording .plain "" ["-c", "pack.toml"] first)
          (runProgram wording .plain "" ["-c", "pack.toml"] second) := by
  intro config notes wording
  let store (fileSystem : FileSystem) (path : Path) (text : String) :=
    (fileSystem.writeFile path text.toUTF8).toOption.getD fileSystem
  let around := store .bare config "output = \"here\""
  let first := store around notes "one"
  let second := store around notes "another"
  have wroteAround :
      FileSystem.bare.writeFile config "output = \"here\"".toUTF8 =
        .ok around :=
    FileSystem.writeFile_of_unrefused _ (by decide +kernel)
  have wroteFirst : around.writeFile notes "one".toUTF8 = .ok first :=
    FileSystem.writeFile_of_unrefused _ (by decide +kernel)
  have wroteSecond : around.writeFile notes "another".toUTF8 = .ok second :=
    FileSystem.writeFile_of_unrefused _ (by decide +kernel)
  have sameConfig : second.readBytes config = first.readBytes config := by
    decide +kernel
  refine ⟨around, first, second, wroteAround, wroteFirst, wroteSecond,
    by decide +kernel,
    runProgram_runsAlike (by decide +kernel)
      ((FileSystem.SameShape.refl around).of_writeFile wroteFirst wroteSecond)
      ?_ wording .plain ""⟩
  intro path named
  injection named with isConfig
  subst isConfig
  exact sameConfig

end QueryPack
