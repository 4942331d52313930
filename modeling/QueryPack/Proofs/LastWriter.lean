import QueryPack.Proofs.RunStopping

namespace QueryPack

/-!
# The last writer wins

Names may be empty, absolute or made of dots, and two pairs may share a file.
Whatever they are and wherever a run stops, it takes nothing away, every file
that an artifact path denotes holds the last query written to it, and every
other file is as it was.
-/

/--
What a run leaves behind that has written the given queries, in order.

Paths are read in the file system that is left. A device takes every write and
keeps nothing; there is one only where there was one before.
-/
structure LastWriterWins
    (root : Path)
    (written : List EffectiveQuery)
    (before after : FileSystem) : Prop where
  directory_kept :
    ∀ {location},
      before.entryAt? location = some .directory →
      after.entryAt? location = some .directory
  file_kept :
    ∀ {location content},
      before.entryAt? location = some (.file content) →
      ∃ later, after.entryAt? location = some (.file later)
  artifact_found :
    ∀ query ∈ written,
      ∃ location,
        after.locate (query.path root) = .ok location ∧
          ((∃ content, after.entryAt? location = some (.file content)) ∨
            before.entryAt? location = some .device)
  last_writer :
    ∀ {location content},
      after.entryAt? location = some (.file content) →
      (∃ query ∈ written,
        after.locate (query.path root) = .ok location) →
      ∃ earlier query later,
        written = earlier ++ query :: later ∧
          after.locate (query.path root) = .ok location ∧
          (∀ other ∈ later,
            after.locate (other.path root) ≠ .ok location) ∧
          content = query.expression.toUTF8
  unwritten_file :
    ∀ {location content},
      after.entryAt? location = some (.file content) →
      (∀ query ∈ written,
        after.locate (query.path root) ≠ .ok location) →
      before.entryAt? location = some (.file content)

/-- A list with an entry of some kind has a last entry of this kind. -/
theorem exists_last_of_exists_mem
    {items : List β}
    {kind : β → Prop}
    (exists_mem : ∃ item ∈ items, kind item) :
    ∃ earlier item later,
      items = earlier ++ item :: later ∧
        kind item ∧
        ∀ other ∈ later, ¬ kind other := by
  induction items with
  | nil =>
      simp at exists_mem
  | cons head rest inductionHypothesis =>
      by_cases inRest : ∃ item ∈ rest, kind item
      · obtain ⟨earlier, item, later, restShape, isKind, last⟩ :=
          inductionHypothesis inRest
        exact ⟨head :: earlier, item, later,
          congrArg (List.cons head) restShape, isKind, last⟩
      · have headIsKind : kind head := by
          obtain ⟨item, member, isKind⟩ := exists_mem
          rcases List.mem_cons.mp member with isHead | later
          · exact isHead ▸ isKind
          · exact absurd ⟨item, later, isKind⟩ inRest
        exact ⟨[], head, rest, rfl, headIsKind,
          fun other member isKind => inRest ⟨other, member, isKind⟩⟩

/-- A file at a written place holds what was written there last. -/
theorem content_of_last_written
    {root : Path}
    {steps : List Step}
    {fileSystem : FileSystem}
    {location : Location}
    {content : ByteArray}
    {earlier later : List EffectiveQuery}
    {query : EffectiveQuery}
    (found :
      (carryOut root steps fileSystem).fileSystem.entryAt? location =
        some (.file content))
    (writtenShape :
      (carryOut root steps fileSystem).written =
        earlier ++ query :: later)
    (denotes :
      (carryOut root steps fileSystem).fileSystem.locate
        (query.path root) = .ok location)
    (last :
      ∀ other ∈ later,
        (carryOut root steps fileSystem).fileSystem.locate
          (other.path root) ≠ .ok location) :
    content = query.expression.toUTF8 := by
  have wrote := entryAt?_of_last_written writtenShape denotes last
  rw [found] at wrote
  injection wrote with sameEntry
  exact FileSystem.content_of_written_eq_file sameEntry.symm

/--
A run over any names, finished or not, takes nothing away, leaves the last
query written to each file, and leaves every other file as it was.
-/
theorem writePack_lastWriterWins
    (root : Path)
    (languages : Languages)
    (book : QueryBook)
    (fileSystem : FileSystem) :
    LastWriterWins root
      ((writePack root languages book fileSystem).queriesWritten
        languages book)
      fileSystem
      (writePack root languages book fileSystem).fileSystem := by
  rw [queriesWritten_writePack, fileSystem_writePack]
  have keeps :=
    carryOut_keepsEntries root (plan languages book) fileSystem
  exact
    { directory_kept := keeps.directory_kept
      file_kept := keeps.file_kept
      artifact_found := by
        intro query isWritten
        obtain ⟨location, stores⟩ := exists_stores_of_mem_written isWritten
        exact ⟨location, stores.locate_eq,
          stores.exists_file_or_device.imp_right keeps.device_iff.mp⟩
      last_writer := by
        intro location content found isDenoted
        obtain ⟨earlier, query, later, writtenShape, denotes, last⟩ :=
          exists_last_of_exists_mem isDenoted
        exact ⟨earlier, query, later, writtenShape, denotes, last,
          content_of_last_written found writtenShape denotes last⟩
      unwritten_file := by
        intro location content found untouched
        exact (sameOrMade_of_not_written untouched).of_entryAt?_of_ne_directory
          found (by simp) }

end QueryPack
