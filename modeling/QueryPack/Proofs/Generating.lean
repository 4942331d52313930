import QueryPack.FileSystem.Tree
import QueryPack.Proofs.CommandLines
import QueryPack.Proofs.ProgramRuns

namespace QueryPack

/-!
# Generating is running a job

A run of the program that generates loads the configuration it is given and
then does what one run of the job does: it leaves the same files, it fails when
the job fails, and it tells the job's error. A configuration that is not there
costs a warning and nothing else.
-/

/-- What a run of the program that generates does, told by a run of a job. -/
structure IsRunOfJob
    (diagnose : String → String)
    (palette : Palette)
    (invocation : Invocation)
    (fileSystem : FileSystem)
    (outcome : ProgramOutcome) : Prop where
  config_failed :
    ∀ error,
      invocation.configuration diagnose fileSystem = .error error →
      outcome.Tells palette invocation (.config error) ∧
        (invocation.format = .human → outcome.output = "") ∧
        outcome.notices = [] ∧
        outcome.fileSystem = fileSystem
  exitCode_eq_zero_iff :
    ∀ config?,
      invocation.configuration diagnose fileSystem = .ok config? →
      (outcome.exitCode = 0 ↔
        ∃ report,
          ((Job.ofConfiguration config? invocation.out?).run
            fileSystem).result = .ok report)
  run_failed :
    ∀ config? error,
      invocation.configuration diagnose fileSystem = .ok config? →
      ((Job.ofConfiguration config? invocation.out?).run
        fileSystem).result = .error error →
      outcome.Tells palette invocation (.run error)
  fileSystem_eq :
    ∀ config?,
      invocation.configuration diagnose fileSystem = .ok config? →
      outcome.fileSystem =
        ((Job.ofConfiguration config? invocation.out?).run
          fileSystem).fileSystem

section Generating

variable
    {diagnose : String → String}
    {invocation : Invocation}
    {fileSystem : FileSystem}

theorem outcome_of_config_error
    (generates : invocation.command = .generate)
    {error : ConfigurationError}
    (failed : invocation.configuration diagnose fileSystem = .error error)
    (palette : Palette)
    (elapsed : String) :
    invocation.outcome diagnose palette elapsed fileSystem =
      ⟨some (.config error), "", [], fileSystem⟩ := by
  rw [Invocation.outcome, Invocation.execute, generates]
  exact withJob_of_config_error failed

theorem outcome_of_configuration
    (generates : invocation.command = .generate)
    {config? : Option Configuration}
    (configured : invocation.configuration diagnose fileSystem = .ok config?)
    (palette : Palette)
    (elapsed : String) :
    invocation.outcome diagnose palette elapsed fileSystem =
      let made :=
        (Job.ofConfiguration config? invocation.out?).generate
          (.ofInvocation palette elapsed invocation) fileSystem
      { made with
        notices := invocation.missingNotices config? ++ made.notices } := by
  rw [Invocation.outcome, Invocation.execute, generates]
  exact withJob_of_configuration configured

theorem isRunOfJob_run
    (generates : invocation.command = .generate)
    (palette : Palette)
    (elapsed : String) :
    IsRunOfJob diagnose palette invocation fileSystem
      (invocation.run diagnose palette elapsed fileSystem) where
  config_failed error failed := by
    have outcomeShape :=
      outcome_of_config_error generates failed palette elapsed
    refine ⟨tells_run (by rw [outcomeShape]) (by simp [outcomeShape]),
      fun isHuman => ?_, ?_, ?_⟩
    · simp [run_eq, outcomeShape, isHuman]
    · simp [run_eq, outcomeShape]
    · simp [run_eq, outcomeShape]
  exitCode_eq_zero_iff config? configured := by
    rw [run_eq, outcome_of_configuration generates configured]
    dsimp only
    rw [failure?_generate]
    split
    next failed => simp [failed]
    next finished => simp [finished]
  run_failed config? error configured failed := by
    have outcomeShape :=
      outcome_of_configuration generates configured palette elapsed
    apply tells_run
    · rw [outcomeShape]
      dsimp only
      rw [failure?_generate, failed]
    · intro isJson
      rw [outcomeShape]
      dsimp only
      rw [output_generate, failed]
      simp [Presentation.ofInvocation, isJson]
  fileSystem_eq config? configured := by
    rw [run_eq, outcome_of_configuration generates configured]
    exact fileSystem_generate

end Generating

end QueryPack
