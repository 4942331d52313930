import QueryPack.Configuration.Store
import QueryPack.FileSystem.Tree
import QueryPack.Job
import QueryPack.Proofs.ConfigurationText
import QueryPack.Proofs.Making

namespace QueryPack

/-!
# Stored configurations are loaded again

A configuration can be stored wherever any bytes can be written: no key and no
query keeps it from being written. What is loaded from the path afterwards is
the configuration itself, so a run that starts from it is the same run. Only a
device loses what is written to it.
-/

namespace FileSystem

variable {fileSystem after : FileSystem} {path : Path}

/-- What is written to the path is lost. -/
def DenotesDevice (fileSystem : FileSystem) (path : Path) : Prop :=
  ∃ location,
    fileSystem.locate path = .ok location ∧
      fileSystem.entryAt? location = some .device

/-- A path that denotes nothing denotes no device. -/
theorem not_denotesDevice_of_missing
    (missing : fileSystem.pathExists path = false) :
    ¬ fileSystem.DenotesDevice path := by
  rintro ⟨location, located, _⟩
  rw [pathExists, located] at missing
  cases missing

/-- Whether a file can be written does not depend on its bytes. -/
theorem writeFile_eq_error_of_eq_error
    {content : ByteArray}
    {reason : AccessError}
    (refused : fileSystem.writeFile path content = .error reason)
    (other : ByteArray) :
    fileSystem.writeFile path other = .error reason := by
  revert refused
  unfold writeFile
  split
  next => exact id
  next =>
    split
    next =>
      split
      next =>
        split
        next => exact id
        next =>
          split
          next => exact id
          next =>
            split
            next => exact id
            -- Whatever else stands at the place of the file is written over.
            all_goals
              intro refused
              cases refused
      next => exact id
    next => exact id

/-- A file is put where the path leads and is found there, unless a device is there. -/
theorem exists_puts_file_of_writeFile
    {content : ByteArray}
    (notDevice : ¬ fileSystem.DenotesDevice path)
    (wrote : fileSystem.writeFile path content = .ok after) :
    ∃ name surrounding,
      fileSystem.LeadsTo path name surrounding ∧
        path.endsInSlash = false ∧
        fileSystem.entryAt? (name :: surrounding) ≠ some .directory ∧
        fileSystem.Puts after (name :: surrounding) (.file content) ∧
        after.locate path = .ok (name :: surrounding) := by
  obtain ⟨name, surrounding, leads, noSlash, notDirectory, puts⟩ :=
    exists_of_writeFile_eq_ok wrote
  have notDeviceHere :
      fileSystem.entryAt? (name :: surrounding) ≠ some .device := by
    intro isDevice
    exact notDevice
      ⟨_, leads.locate_eq noSlash (by simp [isDevice]), isDevice⟩
  have keeps := puts.keepsEntries_of_written notDirectory
  rw [written_of_ne_device notDeviceHere] at puts
  have located : after.locate path = .ok (name :: surrounding) :=
    (leads.of_keepsDirectories keeps.toKeepsDirectories).locate_eq noSlash
      (by simp [puts.entryAt?_same])
  exact ⟨name, surrounding, leads, noSlash, notDirectory, puts, located⟩

/-- A written text is found at its path and read back, unless a device is there. -/
theorem readText_of_writeFile
    {text : String}
    (notDevice : ¬ fileSystem.DenotesDevice path)
    (wrote : fileSystem.writeFile path text.toUTF8 = .ok after) :
    after.pathExists path = true ∧ after.readText path = .ok text := by
  obtain ⟨_, _, _, _, _, puts, located⟩ :=
    exists_puts_file_of_writeFile notDevice wrote
  exact ⟨by rw [pathExists, located],
    readText_eq_of_file located puts.entryAt?_same⟩

end FileSystem

namespace Configuration

variable {fileSystem after : FileSystem} {path : Path} {force : Bool}

/-- Storing that succeeds has written the text of the configuration. -/
theorem writeFile_of_store
    {config : Configuration}
    (stored : store fileSystem path config force = .ok after) :
    fileSystem.writeFile path config.text.toUTF8 = .ok after := by
  unfold store at stored
  split at stored
  next => cases stored
  next =>
    split at stored
    next wrote => rw [wrote, Except.ok.inj stored]
    next => cases stored

/-- Storing fails only where the path is taken or nothing can be written. -/
theorem of_store_eq_error
    {config : Configuration}
    {failure : StoreError}
    (failed : store fileSystem path config force = .error failure) :
    (failure = .alreadyExists path ∧
        fileSystem.pathExists path = true ∧ force = false) ∨
      ∃ reason,
        failure = .access reason ∧
          ∀ content, fileSystem.writeFile path content = .error reason := by
  unfold store at failed
  split at failed
  next taken =>
    injection failed with isTaken
    simp only [Bool.and_eq_true, Bool.not_eq_true'] at taken
    exact Or.inl ⟨isTaken.symm, taken⟩
  next =>
    split at failed
    next => cases failed
    next reason refused =>
      injection failed with isRefused
      exact Or.inr
        ⟨reason, isRefused.symm,
          FileSystem.writeFile_eq_error_of_eq_error refused⟩

/-- A stored configuration is loaded from its path, unless a device is there. -/
theorem load_of_store
    {config : Configuration}
    (notDevice : ¬ fileSystem.DenotesDevice path)
    (stored : store fileSystem path config force = .ok after)
    (diagnose : String → String) :
    load diagnose after path = .ok (some config) := by
  obtain ⟨found, text⟩ :=
    FileSystem.readText_of_writeFile notDevice (writeFile_of_store stored)
  simp only [load, found, if_true, text, ofText?_text]

/--
Storing fails only where the path is taken or where no bytes at all could be
written. Where it succeeds, the configuration is loaded as it was, field by
field, and stands for the same root, the same overrides and the same job.
-/
theorem store_load
    (notDevice : ¬ fileSystem.DenotesDevice path)
    (config : Configuration)
    (force : Bool)
    (diagnose : String → String) :
    (∀ failure,
      store fileSystem path config force = .error failure →
        (failure = .alreadyExists path ∧
            fileSystem.pathExists path = true ∧ force = false) ∨
          ∃ reason,
            failure = .access reason ∧
              ∀ content,
                fileSystem.writeFile path content = .error reason) ∧
    ∀ after,
      store fileSystem path config force = .ok after →
        ∃ loaded,
          load diagnose after path = .ok (some loaded) ∧
            loaded.output? = config.output? ∧
            loaded.queries = config.queries ∧
            loaded.root = config.root ∧
            loaded.overrides = config.overrides ∧
            ∀ out?,
              Job.ofConfiguration (some loaded) out? =
                Job.ofConfiguration (some config) out? := by
  refine ⟨fun _ => of_store_eq_error, fun after stored => ?_⟩
  exact ⟨config, load_of_store notDevice stored diagnose, rfl, rfl, rfl, rfl,
    fun _ => rfl⟩

/-- An empty key, an empty table, dots, quotes, line breaks and control characters. -/
theorem store_load_awkward :
    let config : Configuration :=
      { output? := some "a \"new\" \\ 'root'\r\n"
        queries :=
          ((∅ : Std.ExtTreeMap String CategoryQueries).insert "" ∅).insert
            "c++.日本\u0000"
            ((∅ : CategoryQueries).insert "\n\"'" "'''\n\"\"\"\"") }
    let diagnose (_ : String) := "TOML parse error"
    ∃ after,
      store .bare ⟨"querygen.toml"⟩ config false = .ok after ∧
        ∃ loaded,
          load diagnose after ⟨"querygen.toml"⟩ = .ok (some loaded) ∧
            loaded.output? = config.output? ∧
            loaded.queries = config.queries := by
  intro config diagnose
  have isNew : FileSystem.bare.pathExists ⟨"querygen.toml"⟩ = false := by
    decide +kernel
  have notDevice : ¬ FileSystem.bare.DenotesDevice ⟨"querygen.toml"⟩ := by
    rintro ⟨location, located, _⟩
    rw [FileSystem.pathExists, located] at isNew
    cases isNew
  have isWritable :
      (FileSystem.bare.writeFile ⟨"querygen.toml"⟩ .empty).isOk = true := by
    decide +kernel
  obtain ⟨fails, loads⟩ := store_load notDevice config false diagnose
  cases stored : store .bare ⟨"querygen.toml"⟩ config false with
  | error failure =>
      obtain ⟨_, taken, _⟩ | ⟨reason, _, refused⟩ := fails failure stored
      · rw [isNew] at taken
        cases taken
      · rw [refused] at isWritable
        cases isWritable
  | ok after =>
      obtain ⟨loaded, isLoaded, sameOutput, sameQueries, _⟩ :=
        loads after stored
      exact ⟨after, rfl, loaded, isLoaded, sameOutput, sameQueries⟩

end Configuration

end QueryPack
