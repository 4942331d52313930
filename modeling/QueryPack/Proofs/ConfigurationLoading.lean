import QueryPack.Proofs.ConfigurationRoundTrip
import QueryPack.Proofs.Generating
import QueryPack.Proofs.TypedDocuments

namespace QueryPack

/-!
# What is loaded from a configuration file

Loading fails at a file that cannot be read, at a text that is no document and
at an ill-typed document, and nowhere else. What it gives is what the document
says, and reading it changes nothing.
-/

namespace FileSystem

variable
    {fileSystem : FileSystem}
    {path : Path}

/-- The file that a path denotes holds the text of a document. -/
def HoldsDocument
    (fileSystem : FileSystem)
    (path : Path)
    (document : Toml.Document) : Prop :=
  ∃ text,
    fileSystem.readText path = .ok text ∧
      Toml.document? text = some document

/-- Only what exists can be read. -/
theorem pathExists_of_readText
    {text : String}
    (read : fileSystem.readText path = .ok text) :
    fileSystem.pathExists path = true := by
  unfold pathExists
  split
  next => rfl
  next missing => simp [readText, readBytes, missing] at read

end FileSystem

namespace Configuration

/-- What is loaded from a path: the well-typed documents, and what they say. -/
structure LoadsWellTyped
    (diagnose : String → String)
    (fileSystem : FileSystem)
    (path : Path)
    (loaded : Except ConfigurationError (Option Configuration)) : Prop where
  absent_iff :
    loaded = .ok none ↔ fileSystem.pathExists path = false
  failed_iff :
    ∀ error,
      loaded = .error error ↔
        fileSystem.pathExists path = true ∧
          ((∃ reason,
            fileSystem.readText path = .error reason ∧
              error = .unreadable path reason) ∨
          (∃ text,
            fileSystem.readText path = .ok text ∧
              Toml.document? text = none ∧
              error = .malformed path (diagnose text)) ∨
          ∃ text document,
            fileSystem.readText path = .ok text ∧
              Toml.document? text = some document ∧
              document.IllTyped Toml.Value.queryTable? ∧
              error = .malformed path (diagnose text))
  loaded_iff :
    ∀ config,
      loaded = .ok (some config) ↔
        ∃ document,
          fileSystem.HoldsDocument path document ∧
            ¬ document.IllTyped Toml.Value.queryTable? ∧
            document.SaysSame Toml.Value.queryTable? config
  keys_distinct :
    ∀ document,
      fileSystem.HoldsDocument path document →
      (Toml.Value.table document).NamesOnce

/-- Two paths from which the same is loaded, or at which the same is wrong. -/
def LoadAlike
    (diagnose : String → String)
    (first second : FileSystem)
    (firstPath secondPath : Path) : Prop :=
  (∃ firstText secondText,
      load diagnose first firstPath =
          .error (.malformed firstPath (diagnose firstText)) ∧
        load diagnose second secondPath =
          .error (.malformed secondPath (diagnose secondText))) ∨
    ∃ config,
      load diagnose first firstPath = .ok (some config) ∧
        load diagnose second secondPath = .ok (some config)

section Loading

variable
    {diagnose : String → String}
    {fileSystem : FileSystem}
    {path : Path}

theorem load_of_readText
    {text : String}
    (read : fileSystem.readText path = .ok text) :
    load diagnose fileSystem path =
      match ofText? text with
      | some config => .ok (some config)
      | none => .error (.malformed path (diagnose text)) := by
  have existing := FileSystem.pathExists_of_readText read
  cases said : ofText? text with
  | none => simp only [load, existing, if_true, read, said]
  | some config => simp only [load, existing, if_true, read, said]

theorem load_of_document
    {text : String}
    (read : fileSystem.readText path = .ok text)
    {document : Toml.Document}
    (isDocument : Toml.document? text = some document) :
    load diagnose fileSystem path =
      match ofDocument? document with
      | some config => .ok (some config)
      | none => .error (.malformed path (diagnose text)) := by
  have sameText : ofText? text = ofDocument? document := by
    rw [ofText?, isDocument, Option.bind_eq_bind, Option.bind_some]
  rw [load_of_readText read, sameText]

theorem namesOnce_of_holdsDocument
    {document : Toml.Document}
    (holds : fileSystem.HoldsDocument path document) :
    (Toml.Value.table document).NamesOnce := by
  obtain ⟨text, _, isDocument⟩ := holds
  exact Toml.namesOnce_of_document? isDocument

theorem loadsWellTyped_of_missing
    (missing : fileSystem.pathExists path = false) :
    LoadsWellTyped diagnose fileSystem path (load diagnose fileSystem path) := by
  have unread (text : String) : fileSystem.readText path ≠ .ok text := by
    intro read
    rw [FileSystem.pathExists_of_readText read] at missing
    cases missing
  have isLoad : load diagnose fileSystem path = .ok none := by
    simp [load, missing]
  rw [isLoad]
  exact
    { absent_iff := by simp [missing]
      failed_iff := by simp [missing]
      loaded_iff := by simp [FileSystem.HoldsDocument, unread]
      keys_distinct := fun _ => namesOnce_of_holdsDocument }

theorem loadsWellTyped_of_unreadable
    (existing : fileSystem.pathExists path = true)
    {reason : AccessError}
    (unread : fileSystem.readText path = .error reason) :
    LoadsWellTyped diagnose fileSystem path (load diagnose fileSystem path) := by
  have isLoad :
      load diagnose fileSystem path = .error (.unreadable path reason) := by
    simp [load, existing, unread]
  rw [isLoad]
  exact
    { absent_iff := by simp [existing]
      failed_iff := by
        simp [existing, unread, eq_comm]
      loaded_iff := by simp [FileSystem.HoldsDocument, unread]
      keys_distinct := fun _ => namesOnce_of_holdsDocument }

theorem loadsWellTyped_of_conflict
    {text : String}
    (read : fileSystem.readText path = .ok text)
    (noDocument : Toml.document? text = none) :
    LoadsWellTyped diagnose fileSystem path (load diagnose fileSystem path) := by
  have isLoad :
      load diagnose fileSystem path =
        .error (.malformed path (diagnose text)) := by
    simp [load_of_readText read, ofText?, noDocument]
  have existing := FileSystem.pathExists_of_readText read
  rw [isLoad]
  exact
    { absent_iff := by simp [existing]
      failed_iff := by
        simp [existing, read, noDocument, eq_comm]
      loaded_iff := by simp [FileSystem.HoldsDocument, read, noDocument]
      keys_distinct := fun _ => namesOnce_of_holdsDocument }

theorem loadsWellTyped_of_document
    {text : String}
    (read : fileSystem.readText path = .ok text)
    {document : Toml.Document}
    (isDocument : Toml.document? text = some document) :
    LoadsWellTyped diagnose fileSystem path (load diagnose fileSystem path) := by
  have existing := FileSystem.pathExists_of_readText read
  have holds : fileSystem.HoldsDocument path document :=
    ⟨text, read, isDocument⟩
  have onlyHolds (other : Toml.Document) :
      fileSystem.HoldsDocument path other ↔ document = other := by
    simp [FileSystem.HoldsDocument, read, isDocument]
  have isSome {config : Configuration} :=
    @ofDocument?_eq_some_iff document config (namesOnce_of_holdsDocument holds)
  rw [load_of_document read isDocument]
  cases said : ofDocument? document with
  | none =>
      have illTyped := ofDocument?_eq_none_iff.mp said
      exact
        { absent_iff := by simp [existing]
          failed_iff := by
            simp [existing, read, isDocument, illTyped, eq_comm]
          loaded_iff := by simp [onlyHolds, illTyped]
          keys_distinct := fun _ => namesOnce_of_holdsDocument }
  | some config =>
      have wellTyped := (isSome.mp said).1
      exact
        { absent_iff := by simp [existing]
          failed_iff := by simp [read, isDocument, wellTyped]
          loaded_iff := by
            intro other
            simp only [onlyHolds, exists_eq_left', ← isSome, said]
            simp
          keys_distinct := fun _ => namesOnce_of_holdsDocument }

theorem load_loadsWellTyped
    (diagnose : String → String)
    (fileSystem : FileSystem)
    (path : Path) :
    LoadsWellTyped diagnose fileSystem path (load diagnose fileSystem path) := by
  cases existing : fileSystem.pathExists path with
  | false => exact loadsWellTyped_of_missing existing
  | true =>
      cases read : fileSystem.readText path with
      | error => exact loadsWellTyped_of_unreadable existing read
      | ok text =>
          cases isDocument : Toml.document? text with
          | none => exact loadsWellTyped_of_conflict read isDocument
          | some => exact loadsWellTyped_of_document read isDocument

/-- Documents that share their two known keys are loaded alike. -/
theorem loadAlike_of_sameKnown
    {otherSystem : FileSystem}
    {otherPath : Path}
    {document other : Toml.Document}
    (holds : fileSystem.HoldsDocument path document)
    (otherHolds : otherSystem.HoldsDocument otherPath other)
    (sameOutput : other.get? "output" = document.get? "output")
    (sameOverrides : other.get? "overrides" = document.get? "overrides") :
    LoadAlike diagnose fileSystem otherSystem path otherPath := by
  obtain ⟨text, read, isDocument⟩ := holds
  obtain ⟨otherText, otherRead, isOther⟩ := otherHolds
  unfold LoadAlike
  rw [load_of_document read isDocument, load_of_document otherRead isOther,
    ofDocument?_congr sameOutput sameOverrides]
  cases ofDocument? document with
  | none => exact Or.inl ⟨text, otherText, rfl, rfl⟩
  | some config => exact Or.inr ⟨config, rfl, rfl⟩

end Loading

end Configuration

section Running

variable
    {diagnose : String → String}
    {invocation : Invocation}
    {fileSystem : FileSystem}

/-- A run of the program changes no file for the sake of a configuration it reads. -/
structure OnlyReadsConfiguration
    (diagnose : String → String)
    (palette : Palette)
    (invocation : Invocation)
    (fileSystem : FileSystem)
    (outcome : ProgramOutcome) : Prop where
  failed :
    ∀ error,
      invocation.configuration diagnose fileSystem = .error error →
      outcome.Tells palette invocation (.config error) ∧
        outcome.fileSystem = fileSystem
  idle :
    invocation.command ≠ .generate →
      outcome.fileSystem = fileSystem
  generated :
    invocation.command = .generate →
    ∀ config?,
      invocation.configuration diagnose fileSystem = .ok config? →
      outcome.fileSystem =
        ((Job.ofConfiguration config? invocation.out?).run
          fileSystem).fileSystem

/-- Every command works on a job, but for the one that begins a configuration. -/
theorem exists_withJob_of_not_init
    (notInit : ∀ force, invocation.command ≠ .init force)
    (diagnose : String → String)
    (palette : Palette)
    (elapsed : String)
    (fileSystem : FileSystem) :
    ∃ command,
      invocation.outcome diagnose palette elapsed fileSystem =
          withJob diagnose invocation fileSystem command ∧
        (invocation.command ≠ .generate →
          ∀ job, (command job fileSystem).fileSystem = fileSystem) := by
  unfold Invocation.outcome Invocation.execute
  cases isCommand : invocation.command with
  | generate => exact ⟨_, rfl, fun notGenerate => absurd rfl notGenerate⟩
  | list => exact ⟨_, rfl, fun _ _ => rfl⟩
  | showQuery language category => exact ⟨_, rfl, fun _ _ => rfl⟩
  | init force => exact absurd isCommand (notInit force)

theorem run_onlyReadsConfiguration
    (notInit : ∀ force, invocation.command ≠ .init force)
    (diagnose : String → String)
    (palette : Palette)
    (elapsed : String)
    (fileSystem : FileSystem) :
    OnlyReadsConfiguration diagnose palette invocation fileSystem
      (invocation.run diagnose palette elapsed fileSystem) := by
  obtain ⟨command, isOutcome, idle⟩ :=
    exists_withJob_of_not_init notInit diagnose palette elapsed fileSystem
  refine ⟨fun error failed => ?_, fun notGenerate => ?_, fun generates => ?_⟩
  · rw [withJob_of_config_error failed] at isOutcome
    exact ⟨tells_run (by rw [isOutcome]) (by simp [isOutcome]),
      by simp [run_eq, isOutcome]⟩
  · rw [run_eq, isOutcome]
    exact fileSystem_withJob_of_idle (idle notGenerate)
  · exact (isRunOfJob_run generates palette elapsed).fileSystem_eq

end Running

/--
From a path exactly the well-typed documents are loaded, as what they say in
two levels; of anything else in a document nothing is seen. Where a command
reads a configuration, this changes no file.
-/
theorem load_acceptsWellTyped
    (wording : Wording)
    (fileSystem : FileSystem)
    (path : Path) :
    Configuration.LoadsWellTyped wording.diagnose fileSystem path
        (Configuration.load wording.diagnose fileSystem path) ∧
      (∀ document otherSystem otherPath other,
        fileSystem.HoldsDocument path document →
        otherSystem.HoldsDocument otherPath other →
        other.get? "output" = document.get? "output" →
        other.get? "overrides" = document.get? "overrides" →
        Configuration.LoadAlike wording.diagnose fileSystem otherSystem path
          otherPath) ∧
      ∀ arguments invocation,
        Invocation.ofArguments arguments = .ok invocation →
        invocation.config? = some path →
        (∀ force, invocation.command ≠ .init force) →
        invocation.configuration wording.diagnose fileSystem =
            Configuration.load wording.diagnose fileSystem path ∧
          ∀ palette elapsed,
            OnlyReadsConfiguration wording.diagnose palette invocation
              fileSystem
              (runProgram wording palette elapsed arguments fileSystem) := by
  refine ⟨Configuration.load_loadsWellTyped wording.diagnose fileSystem path,
    ?_, ?_⟩
  · intro document otherSystem otherPath other holds otherHolds
    exact Configuration.loadAlike_of_sameKnown holds otherHolds
  · intro arguments invocation accepted named notInit
    refine ⟨by rw [Invocation.configuration, named], ?_⟩
    intro palette elapsed
    rw [runProgram_of_accepted accepted]
    exact run_onlyReadsConfiguration notInit wording.diagnose palette elapsed
      fileSystem

/-- Any text can be written where nothing is, and is read there. -/
theorem exists_writeFile_bare
    (text : String) :
    ∃ after,
      FileSystem.bare.writeFile ⟨"querygen.toml"⟩ text.toUTF8 = .ok after ∧
        after.readText ⟨"querygen.toml"⟩ = .ok text := by
  have isNew : FileSystem.bare.pathExists ⟨"querygen.toml"⟩ = false := by
    decide +kernel
  have notDevice := FileSystem.not_denotesDevice_of_missing isNew
  have isWritable :
      (FileSystem.bare.writeFile ⟨"querygen.toml"⟩ .empty).isOk = true := by
    decide +kernel
  cases wrote : FileSystem.bare.writeFile ⟨"querygen.toml"⟩ text.toUTF8 with
  | error reason =>
      rw [FileSystem.writeFile_eq_error_of_eq_error wrote] at isWritable
      cases isWritable
  | ok after =>
      exact ⟨after, rfl,
        (FileSystem.readText_of_writeFile notDevice wrote).2⟩

/-- An unknown key, an empty query and a language without any. -/
theorem load_acceptsWellTyped_sparse :
    let path : Path := ⟨"querygen.toml"⟩
    let text := "title = 3\n[overrides.go]\nfunctions = \"\"\n[overrides.rust]\n"
    let wording : Wording := .brief
    ∃ fileSystem document config,
      FileSystem.bare.writeFile path text.toUTF8 = .ok fileSystem ∧
        Configuration.load wording.diagnose fileSystem path = .ok (some config) ∧
        fileSystem.HoldsDocument path document ∧
        document.SaysSame Toml.Value.queryTable? config ∧
        config.output? = none ∧
        config.queries["go"]?.map (·.toList) = some [("functions", "")] ∧
        config.queries["rust"]?.map (·.toList) = some [] ∧
        (runProgram wording .plain "" ["-c", "querygen.toml", "list"]
          fileSystem).fileSystem = fileSystem := by
  intro path text wording
  obtain ⟨fileSystem, wrote, read⟩ := exists_writeFile_bare text
  obtain ⟨loads, _, runs⟩ := load_acceptsWellTyped wording fileSystem path
  have said :
      (Configuration.ofText? text).any (fun config =>
        decide (config.output? = none ∧
          config.queries["go"]?.map (·.toList) = some [("functions", "")] ∧
          config.queries["rust"]?.map (·.toList) = some [])) = true := by
    decide +kernel
  obtain ⟨config, isConfig, saysText⟩ := (Option.any_eq_true _ _).mp said
  obtain ⟨noOutput, ofGo, ofRust⟩ := decide_eq_true_eq.mp saysText
  have isLoaded : Configuration.load wording.diagnose fileSystem path = .ok (some config) := by
    rw [Configuration.load_of_readText read, isConfig]
  obtain ⟨document, holds, _, same⟩ := (loads.loaded_iff config).mp isLoaded
  have onlyReads :=
    (runs ["-c", "querygen.toml", "list"]
      ⟨.list, false, false, .human, some path, none⟩
      (by decide +kernel) rfl (by simp)).2 .plain ""
  exact ⟨fileSystem, document, config, wrote, isLoaded, holds, same,
    noOutput, ofGo, ofRust, onlyReads.idle (by simp)⟩

/-- A date in the place of a language is no table, and is loaded all the same. -/
theorem load_acceptsDate :
    let path : Path := ⟨"querygen.toml"⟩
    let text := "overrides.go = 1979-05-27\n"
    let wording : Wording := .brief
    ∃ fileSystem document config,
      FileSystem.bare.writeFile path text.toUTF8 = .ok fileSystem ∧
        fileSystem.HoldsDocument path document ∧
        document.IllTyped Toml.Value.table? ∧
        Configuration.load wording.diagnose fileSystem path = .ok (some config) ∧
        config.queries["go"]?.map (·.toList) =
          some [(dateTimeKey, "1979-05-27")] := by
  intro path text wording
  obtain ⟨fileSystem, wrote, read⟩ := exists_writeFile_bare text
  have noTable :
      (((Toml.document? text).bind (·.get? "overrides")).bind
        Toml.Value.table?).any (fun entries =>
          entries.any fun entry => entry.2.table?.isNone) = true := by
    decide +kernel
  have said :
      (Configuration.ofText? text).any (fun config =>
        decide (config.queries["go"]?.map (·.toList) =
          some [(dateTimeKey, "1979-05-27")])) = true := by
    decide +kernel
  obtain ⟨entries, areEntries, anyEntry⟩ := (Option.any_eq_true _ _).mp noTable
  obtain ⟨value, found, isTable⟩ := Option.bind_eq_some_iff.mp areEntries
  obtain ⟨document, isDocument, isOverrides⟩ :=
    Option.bind_eq_some_iff.mp found
  obtain ⟨⟨language, date⟩, member, isNone⟩ := List.any_eq_true.mp anyEntry
  rw [Toml.Value.table?_eq_some_iff.mp isTable] at isOverrides
  have illTyped : document.IllTyped Toml.Value.table? :=
    .language ⟨entries, isOverrides, member⟩ (Option.isNone_iff_eq_none.mp isNone)
  obtain ⟨config, isConfig, ofGo⟩ := (Option.any_eq_true _ _).mp said
  refine ⟨fileSystem, document, config, wrote, ⟨text, read, isDocument⟩,
    illTyped, ?_, decide_eq_true_eq.mp ofGo⟩
  rw [Configuration.load_of_readText read, isConfig]

end QueryPack
