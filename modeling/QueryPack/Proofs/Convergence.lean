import QueryPack.FileSystem.Tree
import QueryPack.Proofs.LastWriter

namespace QueryPack

/-!
# Runs converge

After a run that succeeded, its artifacts may be edited or deleted at will: the
same run succeeds again and restores exactly what the first one left. The second
run finds every directory in place, so it only writes, and it writes the same
queries to the same places in the same order.
-/

namespace FileSystem

/-- Nothing lies below a file. -/
theorem entryAt?_below_file
    {fileSystem : FileSystem}
    {file : Location}
    {content : ByteArray}
    (found : fileSystem.entryAt? file = some (.file content))
    {location : Location}
    (below : file <:+ location)
    (elsewhere : location ≠ file) :
    fileSystem.entryAt? location = none := by
  induction location with
  | nil =>
      exact absurd (List.suffix_nil.mp below).symm elsewhere
  | cons name surrounding inductionHypothesis =>
      by_contra isThere
      have isDirectory := entryAt?_surrounding isThere
      rcases List.suffix_cons_iff.mp below with isFile | outer
      · exact elsewhere isFile.symm
      · by_cases same : surrounding = file
        · rw [same, found] at isDirectory
          cases isDirectory
        · rw [inductionHypothesis outer same] at isDirectory
          cases isDirectory

theorem entryAt?_prune
    (fileSystem : FileSystem)
    (target : Location)
    (isIdle : isWithin fileSystem.workingDirectory target = false)
    (location : Location) :
    (fileSystem.prune target isIdle).entryAt? location =
      if isWithin location target then
        none
      else
        fileSystem.entryAt? location := by
  simp only [entryAt?, prune, Std.ExtTreeMap.getElem?_filter']
  cases fileSystem.entries[location]? <;>
    cases isWithin location target <;> simp

/--
An edited file system: at some places files have been deleted or now hold other
bytes, and everything else is as it was.
-/
structure EditedAt
    (places : Location → Prop)
    (original edited : FileSystem) : Prop where
  workingDirectory_eq :
    edited.workingDirectory = original.workingDirectory
  same_or_edited :
    ∀ location,
      edited.entryAt? location = original.entryAt? location ∨
        places location ∧
          (∃ content, original.entryAt? location = some (.file content)) ∧
          (edited.entryAt? location = none ∨
            ∃ content, edited.entryAt? location = some (.file content))

namespace EditedAt

variable
    {places : Location → Prop}
    {original edited : FileSystem}

theorem keepsDirectories
    (editedAt : original.EditedAt places edited) :
    original.KeepsDirectories edited where
  workingDirectory_eq :=
    editedAt.workingDirectory_eq
  directory_kept {location} isDirectory := by
    rcases editedAt.same_or_edited location with
        same | ⟨_, ⟨content, found⟩, _⟩
    · exact same.trans isDirectory
    · rw [isDirectory] at found
      cases found

/-- No file becomes a directory by being edited. -/
theorem ne_directory
    (editedAt : original.EditedAt places edited)
    {location : Location}
    (notDirectory : original.entryAt? location ≠ some .directory) :
    edited.entryAt? location ≠ some .directory := by
  rcases editedAt.same_or_edited location with
      same | ⟨_, _, gone | ⟨content, found⟩⟩
  · rwa [same]
  · simp [gone]
  · simp [found]

/-- A device is where it was. -/
theorem device_iff
    (editedAt : original.EditedAt places edited)
    {location : Location} :
    edited.entryAt? location = some .device ↔
      original.entryAt? location = some .device := by
  rcases editedAt.same_or_edited location with
      same | ⟨_, ⟨content, found⟩, gone | ⟨later, foundLater⟩⟩
  · rw [same]
  · simp [gone, found]
  · simp [found, foundLater]

/-- Writing over one of the places is one more edit. -/
theorem of_puts
    (editedAt : original.EditedAt places edited)
    {after : FileSystem}
    {location : Location}
    {content : ByteArray}
    (isPlace : places location)
    (isThere : original.entryAt? location ≠ none)
    (notDirectory : original.entryAt? location ≠ some .directory)
    (puts :
      edited.Puts after location
        (.written content (edited.entryAt? location))) :
    original.EditedAt places after where
  workingDirectory_eq :=
    puts.workingDirectory_eq.trans editedAt.workingDirectory_eq
  same_or_edited other := by
    by_cases same : location = other
    · subst other
      have sameWritten :
          Entry.written content (edited.entryAt? location) =
            .written content (original.entryAt? location) :=
        written_congr editedAt.device_iff
      rw [puts.entryAt?_same, sameWritten]
      obtain ⟨entry, found⟩ := Option.ne_none_iff_exists'.mp isThere
      cases entry with
      | directory =>
          exact absurd found notDirectory
      | device =>
          rw [found]
          exact Or.inl rfl
      | file earlier =>
          refine Or.inr ⟨isPlace, ⟨earlier, found⟩, Or.inr ⟨content, ?_⟩⟩
          rw [found]
          rfl
    · rw [puts.entryAt?_other same]
      exact editedAt.same_or_edited other

/-- Deleting the file at one of the places is an edit. -/
theorem of_prune
    {location : Location}
    {content : ByteArray}
    (isPlace : places location)
    (found : original.entryAt? location = some (.file content))
    (isIdle : isWithin original.workingDirectory location = false) :
    original.EditedAt places (original.prune location isIdle) where
  workingDirectory_eq :=
    rfl
  same_or_edited other := by
    rw [entryAt?_prune]
    split
    next within =>
      by_cases same : other = location
      · subst same
        exact Or.inr ⟨isPlace, ⟨content, found⟩, Or.inl rfl⟩
      · rw [entryAt?_below_file found (isWithin_eq_true_iff.mp within) same]
        exact Or.inl rfl
    next => exact Or.inl rfl

end EditedAt

end FileSystem

/--
A settled step succeeds again, even after edits to the artifacts, and is itself
no more than an edit of its own artifact.
-/
theorem Step.perform_of_settled
    {root : Path}
    {original edited : FileSystem}
    {places : Location → Prop}
    {step : Step}
    (settled : step.IsSettled root original)
    (isPlace :
      ∀ query location,
        step = .writeArtifact query →
        original.Stores (query.path root) location →
        places location)
    (editedAt : original.EditedAt places edited) :
    ∃ after,
      step.perform root edited = ⟨after, none⟩ ∧
        original.EditedAt places after := by
  cases step with
  | makeRoot =>
      exact ⟨edited,
        FileSystem.createDirectories_of_hasDirectory
          (.of_keepsDirectories editedAt.keepsDirectories settled),
        editedAt⟩
  | openLanguage language =>
      exact ⟨edited,
        FileSystem.createDirectories_of_hasDirectory
          (.of_keepsDirectories editedAt.keepsDirectories settled),
        editedAt⟩
  | writeArtifact query =>
      obtain ⟨location, stores⟩ := settled
      have isOwnPlace := isPlace query location rfl stores
      obtain ⟨name, surrounding, rfl, leads⟩ := stores.leads
      have editedLeads :=
        leads.of_keepsDirectories editedAt.keepsDirectories
      obtain ⟨after, wrote, puts⟩ :=
        editedLeads.exists_writeFile_eq_ok stores.noSlash
          (editedAt.ne_directory stores.notDirectory)
          query.expression.toUTF8
      have wroteArtifact :
          edited.writeFile
              (Layout.file root query.language query.category)
              query.expression.toUTF8 = .ok after :=
        wrote
      refine ⟨after, ?_, ?_⟩
      · rw [Step.perform, wroteArtifact]
        rfl
      · exact editedAt.of_puts isOwnPlace stores.isThere
          stores.notDirectory puts

/--
Where every step of a run is settled, carrying out the run again succeeds and
is no more than an edit of the artifacts.
-/
theorem carryOut_of_settled
    {root : Path}
    {original edited : FileSystem}
    {places : Location → Prop}
    {steps : List Step}
    (settled : ∀ step ∈ steps, step.IsSettled root original)
    (isPlace :
      ∀ query location,
        Step.writeArtifact query ∈ steps →
        original.Stores (query.path root) location →
        places location)
    (editedAt : original.EditedAt places edited) :
    (carryOut root steps edited).stopped? = none ∧
      original.EditedAt places
        (carryOut root steps edited).fileSystem := by
  induction steps generalizing edited with
  | nil =>
      exact ⟨rfl, editedAt⟩
  | cons step rest inductionHypothesis =>
      obtain ⟨after, performed, afterEdited⟩ :=
        step.perform_of_settled (settled step List.mem_cons_self)
          (fun query location isWrite =>
            isPlace query location (isWrite ▸ List.mem_cons_self))
          editedAt
      rw [carryOut_of_success performed]
      apply inductionHypothesis ?_ ?_ afterEdited
      · intro later member
        exact settled later (List.mem_cons_of_mem _ member)
      · intro query location member
        exact isPlace query location (List.mem_cons_of_mem _ member)

attribute [ext] Progress

/-- An artifact path denotes one place in all that keeps directories. -/
theorem locate_eq_of_mem_written
    {root : Path}
    {steps : List Step}
    {fileSystem edited : FileSystem}
    (keeps :
      (carryOut root steps fileSystem).fileSystem.KeepsDirectories
        (carryOut root steps edited).fileSystem)
    {query : EffectiveQuery}
    (isWritten : query ∈ (carryOut root steps fileSystem).written)
    (isWrittenAgain : query ∈ (carryOut root steps edited).written) :
    (carryOut root steps edited).fileSystem.locate (query.path root) =
      (carryOut root steps fileSystem).fileSystem.locate
        (query.path root) := by
  obtain ⟨location, stores⟩ := exists_stores_of_mem_written isWritten
  obtain ⟨locationAgain, storesAgain⟩ :=
    exists_stores_of_mem_written isWrittenAgain
  rw [stores.locate_eq, storesAgain.locate_eq,
    stores.unique_of_keepsDirectories keeps storesAgain]

/-- Carrying out finished steps again restores what they left. -/
theorem fileSystem_carryOut_of_edited
    {root : Path}
    {steps : List Step}
    {fileSystem edited : FileSystem}
    (unstopped : (carryOut root steps fileSystem).stopped? = none)
    (editedAt :
      (carryOut root steps fileSystem).fileSystem.EditedAt
        (fun location =>
          ∃ query ∈ (carryOut root steps fileSystem).written,
            (carryOut root steps fileSystem).fileSystem.locate
              (query.path root) = .ok location)
        edited) :
    (carryOut root steps edited).stopped? = none ∧
      (carryOut root steps edited).fileSystem =
        (carryOut root steps fileSystem).fileSystem := by
  have completed := completed_carryOut_of_stopped?_eq_none unstopped
  have settled :
      ∀ step ∈ steps,
        step.IsSettled root
          (carryOut root steps fileSystem).fileSystem :=
    fun step member =>
      isSettled_of_mem_completed (completed.symm ▸ member)
  have isPlace :
      ∀ query location,
        Step.writeArtifact query ∈ steps →
        (carryOut root steps fileSystem).fileSystem.Stores
          (query.path root) location →
        ∃ query ∈ (carryOut root steps fileSystem).written,
          (carryOut root steps fileSystem).fileSystem.locate
            (query.path root) = .ok location := by
    intro query location member stores
    refine ⟨query, ?_, stores.locate_eq⟩
    exact List.mem_filterMap.mpr ⟨_, completed.symm ▸ member, rfl⟩
  obtain ⟨unstoppedAgain, restored⟩ :=
    carryOut_of_settled settled isPlace editedAt
  refine ⟨unstoppedAgain, ?_⟩
  have completedAgain :=
    completed_carryOut_of_stopped?_eq_none unstoppedAgain
  have sameWritten :
      (carryOut root steps edited).written =
        (carryOut root steps fileSystem).written := by
    rw [Progress.written, Progress.written, completed, completedAgain]
  have sameDenoted :
      ∀ query ∈ (carryOut root steps fileSystem).written,
        (carryOut root steps edited).fileSystem.locate
            (query.path root) =
          (carryOut root steps fileSystem).fileSystem.locate
            (query.path root) :=
    fun query isWritten =>
      locate_eq_of_mem_written restored.keepsDirectories isWritten
        (sameWritten.symm ▸ isWritten)
  apply FileSystem.ext_entryAt? restored.workingDirectory_eq
  intro location
  -- Only an edited place can differ; there both runs wrote the same query last.
  rcases restored.same_or_edited location with
      same | ⟨isDenoted, ⟨content, found⟩, _⟩
  · exact same
  · obtain ⟨earlier, query, later, writtenShape, denotes, last⟩ :=
      exists_last_of_exists_mem isDenoted
    have notDevice : edited.entryAt? location ≠ some .device := by
      intro isDevice
      rw [editedAt.device_iff.mp isDevice] at found
      cases found
    have isWritten :
        ∀ other ∈ query :: later,
          other ∈ (carryOut root steps fileSystem).written := by
      intro other member
      rw [writtenShape]
      exact List.mem_append_right _ member
    have wroteAgain :=
      entryAt?_of_last_written
        (sameWritten.trans writtenShape)
        ((sameDenoted query (isWritten query List.mem_cons_self)).trans
          denotes)
        (fun other member denotesAgain =>
          last other member
            ((sameDenoted other
              (isWritten other (List.mem_cons_of_mem _ member))).symm.trans
                denotesAgain))
    rw [wroteAgain, FileSystem.written_of_ne_device notDevice, found,
      content_of_last_written found writtenShape denotes last]

/--
A run that succeeded can be repeated after its artifacts were edited or deleted
in any way: it succeeds again, ends in exactly the same file system and gives
back exactly the same report, events and notices.
-/
theorem writePack_converges
    {root : Path}
    {languages : Languages}
    {book : QueryBook}
    {fileSystem edited : FileSystem}
    {report : RunReport}
    (finished :
      (writePack root languages book fileSystem).result = .ok report)
    (editedAt :
      (writePack root languages book fileSystem).fileSystem.EditedAt
        (fun location =>
          ∃ artifact ∈ report.artifacts,
            (writePack root languages book fileSystem).fileSystem.locate
              artifact.path = .ok location)
        edited) :
    (writePack root languages book edited).result = .ok report ∧
      writePack root languages book edited =
        writePack root languages book fileSystem := by
  obtain ⟨unstopped, reportShape⟩ := result_eq_ok_iff.mp finished
  have artifactsShape :
      report.artifacts =
        (carryOut root (plan languages book) fileSystem).written.map
          (Artifact.ofQuery root) := by
    rw [reportShape]
    rfl
  rw [fileSystem_writePack, artifactsShape] at editedAt
  simp only [List.mem_map, exists_exists_and_eq_and] at editedAt
  obtain ⟨unstoppedAgain, sameFileSystem⟩ :=
    fileSystem_carryOut_of_edited unstopped editedAt
  have sameProgress :
      carryOut root (plan languages book) edited =
        carryOut root (plan languages book) fileSystem := by
    apply Progress.ext
    · rw [completed_carryOut_of_stopped?_eq_none unstopped,
        completed_carryOut_of_stopped?_eq_none unstoppedAgain]
    · rw [unstopped, unstoppedAgain]
    · exact sameFileSystem
  have sameOutcome :
      writePack root languages book edited =
        writePack root languages book fileSystem := by
    rw [writePack, writePack, sameProgress]
  exact ⟨sameOutcome ▸ finished, sameOutcome⟩

/-- One of two aliases of a language's artifact is deleted and comes back. -/
theorem writePack_converges_deleted :
    let root : Path := ⟨"out"⟩
    let languages : Languages := .ofNames ["go", "./go"]
    let book : QueryBook := ⟨.empty, .ofNames ["functions"]⟩
    let place : Location := ["functions.scm", "go", "out"]
    let first := writePack root languages book .bare
    ∃ report edited,
      first.result = .ok report ∧
        first.fileSystem.entryAt? place ≠ none ∧
        edited.entryAt? place = none ∧
        (writePack root languages book edited).result = .ok report ∧
        writePack root languages book edited = first := by
  intro root languages book place first
  let query := book.effective ⟨"go"⟩ ⟨"functions"⟩
  have unstopped :
      (carryOut root (plan languages book) .bare).stopped? = none := by
    decide +kernel
  have denotes :
      (carryOut root (plan languages book) .bare).fileSystem.locate
        (query.path root) = .ok place := by
    decide +kernel
  have isIdle :
      FileSystem.isWithin
        (carryOut root (plan languages book) .bare).fileSystem.workingDirectory
        place = false := by
    decide +kernel
  have isWritten :
      query ∈ (carryOut root (plan languages book) .bare).written := by
    rw [written_of_unstopped unstopped]
    decide +kernel
  have keeps :=
    carryOut_keepsEntries root (plan languages book) .bare
  obtain ⟨location, stores⟩ := exists_stores_of_mem_written isWritten
  have isPlace : location = place :=
    Except.ok.inj (stores.locate_eq.symm.trans denotes)
  subst isPlace
  rcases stores.exists_file_or_device with ⟨content, found⟩ | isDevice
  · have finished := result_eq_ok_iff.mpr ⟨unstopped, rfl⟩
    have reported := List.mem_map_of_mem (f := Artifact.ofQuery root) isWritten
    rw [← fileSystem_writePack] at found denotes isIdle
    obtain ⟨finishedAgain, sameOutcome⟩ :=
      writePack_converges finished
        (.of_prune ⟨_, reported, denotes⟩ found isIdle)
    refine ⟨_, _, finished, ?_, ?_, finishedAgain, sameOutcome⟩
    · rw [found]
      simp
    · rw [FileSystem.entryAt?_prune, FileSystem.isWithin_eq_true_iff.mpr
        (List.suffix_refl _), if_pos rfl]
  · have wasDevice := keeps.device_iff.mp isDevice
    simp [FileSystem.bare, FileSystem.entryAt?] at wasDevice

end QueryPack
