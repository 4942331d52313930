import QueryPack.Proofs.JsonReading
import QueryPack.Proofs.RunStopping
import QueryPack.Proofs.ToldTexts

namespace QueryPack

/-!
# From a command to a run of the program

A run of the program adds little to the command it carries out: the exit code
says whether the command failed, a failure is told where the format wants it,
and the log is cut down to what is logged. A command that works on a job works
on the one that the named configuration asks for.
-/

namespace Invocation

/-- The configuration that is asked for: none if none is named or none is there. -/
def configuration
    (diagnose : String → String)
    (invocation : Invocation)
    (fileSystem : FileSystem) :
    Except ConfigurationError (Option Configuration) :=
  match invocation.config? with
  | none => .ok none
  | some path => Configuration.load diagnose fileSystem path

/-- The warning that a named configuration is not there. -/
def missingNotices
    (invocation : Invocation) : Option Configuration → List Notice
  | some _ => []
  | none => (invocation.config?.map fun path => .configMissing path.text).toList

end Invocation

/-- The queries that a run of a job has put into files, in order. -/
def Job.written
    (job : Job)
    (fileSystem : FileSystem) : List EffectiveQuery :=
  (job.run fileSystem).queriesWritten job.languages job.book

theorem Job.written_eq
    (job : Job)
    (fileSystem : FileSystem) :
    job.written fileSystem =
      (carryOut job.root (plan job.languages job.book) fileSystem).written :=
  queriesWritten_writePack job.root job.languages job.book fileSystem

theorem Job.fileSystem_run
    (job : Job)
    (fileSystem : FileSystem) :
    (job.run fileSystem).fileSystem =
      (carryOut job.root (plan job.languages job.book)
        fileSystem).fileSystem :=
  fileSystem_writePack job.root job.languages job.book fileSystem

/-- The queries that a run of the program puts into files, in order. -/
def Invocation.written
    (diagnose : String → String)
    (invocation : Invocation)
    (fileSystem : FileSystem) : List EffectiveQuery :=
  match invocation.command with
  | .generate =>
      match invocation.configuration diagnose fileSystem with
      | .error _ => []
      | .ok config? =>
          (Job.ofConfiguration config? invocation.out?).written fileSystem
  | .list => []
  | .showQuery _ _ => []
  | .init _ => []

/--
A failure as it is told: people read its text in the error output, programs in
the one reply that is all the output.
-/
structure ProgramOutcome.Tells
    (palette : Palette)
    (invocation : Invocation)
    (error : CommandError)
    (outcome : ProgramOutcome) : Prop where
  exitCode_eq :
    outcome.exitCode = 1
  for_people :
    invocation.format = .human →
      ∃ text,
        error.IsWorded text ∧ palette.ShowsFailure text outcome.errorOutput
  for_programs :
    invocation.format = .json →
      outcome.errorOutput = "" ∧
        ∃ command text,
          invocation.command.IsCalled command ∧
            error.IsWorded text ∧
            let data : Json := .object [("error", .string text)]
            outcome.output = (Json.reply false command data).compact ++ "\n" ∧
              IsReply outcome.output false command data

/-- An accepted command line is run as the invocation it stands for. -/
theorem runProgram_of_accepted
    {arguments : List String}
    {invocation : Invocation}
    (accepted : Invocation.ofArguments arguments = .ok invocation)
    (wording : Wording)
    (palette : Palette)
    (elapsed : String)
    (fileSystem : FileSystem) :
    runProgram wording palette elapsed arguments fileSystem =
      invocation.run wording.diagnose palette elapsed fileSystem := by
  rw [runProgram, accepted]

section Run

/-- What the command of an invocation does. -/
def Invocation.outcome
    (diagnose : String → String)
    (palette : Palette)
    (elapsed : String)
    (invocation : Invocation)
    (fileSystem : FileSystem) : CommandOutcome :=
  invocation.execute diagnose (.ofInvocation palette elapsed invocation)
    fileSystem

variable
    {diagnose : String → String}
    {palette : Palette}
    {elapsed : String}
    {invocation : Invocation}
    {fileSystem : FileSystem}

/-- How a run of the program comes out, by how its command does. -/
theorem run_eq
    (diagnose : String → String)
    (palette : Palette)
    (elapsed : String)
    (invocation : Invocation)
    (fileSystem : FileSystem) :
    invocation.run diagnose palette elapsed fileSystem =
      let outcome := invocation.outcome diagnose palette elapsed fileSystem
      { exitCode := if outcome.failure?.isSome then 1 else 0
        output :=
          match outcome.failure?, invocation.format with
          | some error, .json =>
              outcome.output ++
                Console.line
                  (Reply.failure invocation.command.name
                    error.message).document.compact
          | _, _ => outcome.output
        notices :=
          outcome.notices.filter (Notice.isLogged invocation.verbose)
        errorOutput :=
          match outcome.failure?, invocation.format with
          | some error, .human => Console.failed palette error.message
          | _, _ => ""
        fileSystem := outcome.fileSystem } := by
  unfold Invocation.run Invocation.outcome
  dsimp only
  split
  next succeeded => simp [succeeded]
  next failed => split <;> simp_all

/-- The reply of a failure is read back, whatever its text. -/
theorem ofText?_compact_failure
    (command text : String) :
    Json.ofText?
        (Json.reply false command (.object [("error", .string text)])).compact =
      some (.reply false command (.object [("error", .string text)])) := by
  apply Json.ofText?_compact
  simp [Json.reply, Json.maxDepth, Json.NestsWithin]

/-- A command that fails for programs has printed nothing before. -/
theorem tells_run
    {error : CommandError}
    (failed :
      (invocation.outcome diagnose palette elapsed fileSystem).failure? =
        some error)
    (silent :
      invocation.format = .json →
        (invocation.outcome diagnose palette elapsed fileSystem).output = "") :
    (invocation.run diagnose palette elapsed fileSystem).Tells palette
      invocation error where
  exitCode_eq := by
    simp [run_eq, failed]
  for_people isHuman := by
    refine ⟨error.message, error.isWorded_message, ?_⟩
    simp only [run_eq, failed, isHuman]
    exact palette.showsFailure_failed error.message
  for_programs isJson := by
    have printed :
        (invocation.run diagnose palette elapsed fileSystem).output =
          (Json.reply false invocation.command.name
            (.object [("error", .string error.message)])).compact ++ "\n" := by
      simp only [run_eq, failed, isJson, silent isJson, String.empty_append]
      rfl
    refine ⟨by simp [run_eq, failed, isJson], invocation.command.name,
      error.message, invocation.command.isCalled_name, error.isWorded_message,
      printed, _, printed, ?_⟩
    exact ofText?_compact_failure invocation.command.name error.message

end Run

section WithJob

variable
    {diagnose : String → String}
    {invocation : Invocation}
    {fileSystem : FileSystem}
    {command : Job → FileSystem → CommandOutcome}

theorem withJob_of_config_error
    {error : ConfigurationError}
    (failed : invocation.configuration diagnose fileSystem = .error error) :
    withJob diagnose invocation fileSystem command =
      ⟨some (.config error), "", [], fileSystem⟩ := by
  unfold Invocation.configuration at failed
  unfold withJob Job.load
  cases named : invocation.config? with
  | none =>
      rw [named] at failed
      cases failed
  | some path =>
      rw [named] at failed
      dsimp only at failed ⊢
      rw [failed]

theorem withJob_of_configuration
    {config? : Option Configuration}
    (configured : invocation.configuration diagnose fileSystem = .ok config?) :
    withJob diagnose invocation fileSystem command =
      let job := Job.ofConfiguration config? invocation.out?
      { command job fileSystem with
        notices :=
          invocation.missingNotices config? ++
            (command job fileSystem).notices } := by
  unfold Invocation.configuration at configured
  unfold withJob Job.load
  split at configured
  next unnamed =>
    injection configured with isNone
    subst isNone
    simp only [unnamed, Invocation.missingNotices, Option.map_none,
      Option.toList_none]
  next path named =>
    cases config? <;>
      simp [named, configured, Invocation.missingNotices]

/-- A command that leaves every file alone does so for any job. -/
theorem fileSystem_withJob_of_idle
    (idle : ∀ job, (command job fileSystem).fileSystem = fileSystem) :
    (withJob diagnose invocation fileSystem command).fileSystem = fileSystem := by
  cases configured : invocation.configuration diagnose fileSystem with
  | error =>
      rw [withJob_of_config_error configured]
  | ok =>
      rw [withJob_of_configuration configured]
      exact idle _

end WithJob

section Generate

variable
    {presentation : Presentation}
    {job : Job}
    {fileSystem : FileSystem}

theorem fileSystem_generate :
    (job.generate presentation fileSystem).fileSystem =
      (job.run fileSystem).fileSystem := by
  unfold Job.generate
  dsimp only
  split <;> rfl

theorem notices_generate :
    (job.generate presentation fileSystem).notices =
      (job.run fileSystem).notices := by
  unfold Job.generate
  dsimp only
  split <;> rfl

/-- Generating fails when the run of the job does, and with its error. -/
theorem failure?_generate :
    (job.generate presentation fileSystem).failure? =
      match (job.run fileSystem).result with
      | .error error => some (.run error)
      | .ok _ => none := by
  unfold Job.generate
  dsimp only
  cases (job.run fileSystem).result <;> rfl

/-- A run for people prints as it begins and as it ends, one for programs replies. -/
theorem output_generate :
    (job.generate presentation fileSystem).output =
      let forPeople := presentation.format = .human ∧ presentation.quiet = false
      let opening :=
        if forPeople then generateOpening presentation.palette job else ""
      match (job.run fileSystem).result with
      | .error _ => opening
      | .ok report =>
          presentation.success .generate
            (opening ++
              if forPeople then generateSummary presentation report else "")
            report.document := by
  unfold Job.generate
  dsimp only
  cases (job.run fileSystem).result <;> rfl

end Generate

end QueryPack
