import QueryPack.FileSystem.Tree
import QueryPack.Proofs.PlainRun

namespace QueryPack

/-!
# A finished pack is complete and exact

A run over plain names that succeeds has written the file of every pair, with
the query of that pair. Besides these files it has only made directories: those
on the way to the root and those of the languages. Its report lists the files
in writing order.
-/

/--
What a finished run over plain names leaves: the file of every pair, the
directories around these files, and everything that was there before.
-/
structure CompletePack
    (root : Path)
    (languages : Languages)
    (book : QueryBook)
    (before after : FileSystem) : Prop
    extends before.KeepsEntries after where
  artifact_written :
    ∀ language ∈ languages.list,
      ∀ category ∈ book.categories.list,
        ∃ location content,
          after.locate (Layout.file root language category) =
              .ok location ∧
            after.entryAt? location = some (.file content) ∧
            content = (book.effective language category).expression.toUTF8 ∧
            content.size ≠ 0
  other_file_iff :
    ∀ {location content},
      (∀ language ∈ languages.list,
        ∀ category ∈ book.categories.list,
          after.locate (Layout.file root language category) ≠
            .ok location) →
      (after.entryAt? location = some (.file content) ↔
        before.entryAt? location = some (.file content))
  directory_iff :
    ∀ {location},
      after.entryAt? location = some .directory ↔
        (before.createDirectories root).fileSystem.entryAt? location =
            some .directory ∨
          ∃ language ∈ languages.list,
            after.locate (Layout.directory root language) = .ok location

/-- The record of every pair, language by language. -/
def artifactRecords
    (root : Path)
    (languages : Languages)
    (book : QueryBook) : List Artifact :=
  languages.list.flatMap fun language =>
    book.categories.list.map fun category =>
      { language := language
        category := category
        path := Layout.file root language category
        source := (book.effective language category).source
        bytes := (book.effective language category).expression.toUTF8.size }

theorem map_ofQuery_queries
    (root : Path)
    (languages : Languages)
    (book : QueryBook) :
    (book.queries languages).map (Artifact.ofQuery root) =
      artifactRecords root languages book := by
  rw [QueryBook.queries, List.map_flatMap, artifactRecords]
  congr 1
  funext language
  rw [QueryBook.ofLanguage, List.map_map]
  congr 1
  funext category
  simp [Artifact.ofQuery, language_effective, category_effective,
    EffectiveQuery.bytes]

theorem size_toUTF8_effective_ne_zero
    (book : QueryBook)
    (language : Language)
    (category : Category) :
    (book.effective language category).expression.toUTF8.size ≠ 0 := by
  have nonempty := book.expression_effective_ne_empty language category
  simpa using nonempty

/-- What the report of a finished run says of its pack. -/
theorem report_of_finished
    {root : Path}
    {languages : Languages}
    {book : QueryBook}
    {fileSystem : FileSystem}
    {report : RunReport}
    (finished :
      (writePack root languages book fileSystem).result = .ok report) :
    report.root = root ∧
      report.languages = languages.list.length ∧
      report.categories = book.categories.list.length ∧
      report.artifacts = artifactRecords root languages book ∧
      report.digest = Digest.ofQueries (book.queries languages) := by
  obtain ⟨unstopped, reportShape⟩ := result_eq_ok_iff.mp finished
  rw [reportShape, written_of_unstopped unstopped]
  refine ⟨rfl, rfl, ?_, map_ofQuery_queries root languages book, rfl⟩
  exact (List.length_map _).symm

section Plain

variable
    {root : Path}
    {languages : Languages}
    {book : QueryBook}
    {before begun after : FileSystem}
    {base : Location}

/-- The files that carried out steps have left are those they wrote. -/
theorem LeftBy.file_iff
    {done : List Step}
    (leftBy : LeftBy root base done begun after)
    {location : Location}
    {content : ByteArray}
    (unwritten :
      ∀ query,
        .writeArtifact query ∈ done →
        (Step.writeArtifact query).place base ≠ location)
    (keeps : begun.KeepsEntries after) :
    after.entryAt? location = some (.file content) ↔
      begun.entryAt? location = some (.file content) := by
  by_cases touched : ∃ step ∈ done, step.place base = location
  · obtain ⟨step, member, isPlace⟩ := touched
    have isDirectory : after.entryAt? location = some .directory := by
      have left := leftBy.entryAt?_place step member
      rw [isPlace] at left
      cases step with
      | makeRoot =>
          exact left
      | openLanguage language =>
          exact left
      | writeArtifact query =>
          exact absurd isPlace (unwritten query member)
    rw [isDirectory]
    apply iff_of_false
    · simp
    · intro found
      obtain ⟨later, foundLater⟩ := keeps.file_kept found
      rw [isDirectory] at foundLater
      cases foundLater
  · rw [leftBy.entryAt?_elsewhere location
      (fun step member isPlace => touched ⟨step, member, isPlace⟩)]

/-- The directories that carried out steps have left are those they opened. -/
theorem LeftBy.directory_iff
    {done : List Step}
    (leftBy : LeftBy root base done begun after)
    (keeps : begun.KeepsEntries after)
    (location : Location) :
    after.entryAt? location = some .directory ↔
      begun.entryAt? location = some .directory ∨
        ∃ step ∈ done,
          step.query? = none ∧ step.place base = location := by
  constructor
  · intro isDirectory
    by_cases touched : ∃ step ∈ done, step.place base = location
    · obtain ⟨step, member, isPlace⟩ := touched
      refine Or.inr ⟨step, member, ?_, isPlace⟩
      cases step with
      | makeRoot =>
          rfl
      | openLanguage language =>
          rfl
      | writeArtifact query =>
          have left := leftBy.entryAt?_place _ member
          rw [isPlace, isDirectory] at left
          injection left with sameEntry
          exact absurd sameEntry.symm (FileSystem.written_ne_directory _ _)
    · rw [leftBy.entryAt?_elsewhere location
        (fun step member isPlace => touched ⟨step, member, isPlace⟩)]
        at isDirectory
      exact Or.inl isDirectory
  · rintro (isDirectory | ⟨step, member, writesNothing, isPlace⟩)
    · exact keeps.directory_kept isDirectory
    · have left := leftBy.entryAt?_place step member
      rw [isPlace] at left
      cases step with
      | makeRoot =>
          exact left
      | openLanguage language =>
          exact left
      | writeArtifact query =>
          cases writesNothing

/-- A language's directory is at the place of the step that opens it. -/
theorem LeftBy.locate_directory
    {done : List Step}
    {language : Language}
    (leftBy : LeftBy root base done begun after)
    (member : .openLanguage language ∈ done)
    (plain : language.IsPlain) :
    after.locate (Layout.directory root language) =
      .ok (language.name :: base) := by
  have denotes := leftBy.locate_path member plain
  exact denotes

/-- The file of a pair is in the directory of its language. -/
theorem LeftBy.locate_file
    {done : List Step}
    {language : Language}
    {category : Category}
    (leftBy : LeftBy root base done begun after)
    (member : .writeArtifact (book.effective language category) ∈ done)
    (plainLanguage : language.IsPlain)
    (plainCategory : category.IsPlain) :
    after.locate (Layout.file root language category) =
      .ok (category.fileName :: language.name :: base) := by
  have plain :
      (Step.writeArtifact (book.effective language category)).IsPlain := by
    rw [Step.IsPlain, language_effective, category_effective]
    exact ⟨plainLanguage, plainCategory⟩
  simpa only [Step.path, EffectiveQuery.path, Step.place, Step.name,
    Step.surrounding, language_effective, category_effective]
    using leftBy.locate_path member plain

/-- Where no device stands, the file of a pair holds the query of the pair. -/
theorem LeftBy.entryAt?_file
    {done : List Step}
    {language : Language}
    {category : Category}
    (leftBy : LeftBy root base done begun after)
    (member : .writeArtifact (book.effective language category) ∈ done)
    (notDevice :
      begun.entryAt? (category.fileName :: language.name :: base) ≠
        some .device) :
    after.entryAt? (category.fileName :: language.name :: base) =
      some (.file
        (book.effective language category).expression.toUTF8) := by
  have left := leftBy.entryAt?_place _ member
  simp only [Step.place, Step.name, Step.surrounding, Step.leaves,
    language_effective, category_effective] at left
  rw [left, FileSystem.written_of_ne_device notDevice]

/-- Having carried out every step of a plan leaves a complete pack. -/
theorem LeftBy.completePack
    (plainLanguages :
      ∀ language ∈ languages.list, language.IsPlain)
    (plainCategories :
      ∀ category ∈ book.categories.list, category.IsPlain)
    (noDevice :
      ∀ category ∈ book.categories.list,
        ∀ location,
          before.entryAt? (category.fileName :: location) ≠ some .device)
    (isBegun : begun = (before.createDirectories root).fileSystem)
    (keeps : begun.KeepsEntries after)
    (leftBy :
      LeftBy root base (languageSteps languages book) begun after) :
    CompletePack root languages book before after := by
  have adds : before.AddsDirectories begun :=
    isBegun ▸ before.createDirectories_addsDirectories root
  have located :
      ∀ language ∈ languages.list,
        ∀ category ∈ book.categories.list,
          after.locate (Layout.file root language category) =
            .ok (category.fileName :: language.name :: base) :=
    fun language isListed category isListedCategory =>
      leftBy.locate_file
        (writeArtifact_mem_languageSteps isListed isListedCategory)
        (plainLanguages language isListed)
        (plainCategories category isListedCategory)
  exact
    { toKeepsEntries := adds.keepsEntries.trans keeps
      artifact_written := by
        intro language isListed category isListedCategory
        have notDevice :
            begun.entryAt? (category.fileName :: language.name :: base) ≠
              some .device := by
          rw [ne_eq, adds.keepsEntries.device_iff]
          exact noDevice category isListedCategory _
        exact ⟨_, _, located language isListed category isListedCategory,
          leftBy.entryAt?_file
            (writeArtifact_mem_languageSteps isListed isListedCategory)
            notDevice,
          rfl, size_toUTF8_effective_ne_zero book language category⟩
      other_file_iff := by
        intro location content untouched
        rw [leftBy.file_iff ?_ keeps]
        · exact
            ⟨fun found =>
              (adds.sameOrMade location).of_entryAt?_of_ne_directory
                found (by simp),
              (adds.sameOrMade location).entryAt?_of_some⟩
        · intro query member isPlace
          obtain ⟨language, isListed,
              opens | ⟨category, isListedCategory, writes⟩⟩ :=
            mem_languageSteps.mp member
          · cases opens
          · injection writes with isQuery
            subst isQuery
            apply untouched language isListed category isListedCategory
            rw [located language isListed category isListedCategory,
              ← isPlace]
            simp only [Step.place, Step.name, Step.surrounding,
              language_effective, category_effective]
      directory_iff := by
        intro location
        rw [leftBy.directory_iff keeps, isBegun]
        refine or_congr_right ⟨?_, ?_⟩
        · rintro ⟨step, member, writesNothing, isPlace⟩
          obtain ⟨language, isListed, opens | ⟨_, _, writes⟩⟩ :=
            mem_languageSteps.mp member
          · subst opens
            refine ⟨language, isListed, ?_⟩
            rw [leftBy.locate_directory member
              (plainLanguages language isListed), ← isPlace]
            rfl
          · subst writes
            cases writesNothing
        · rintro ⟨language, isListed, denotes⟩
          have isOpened := openLanguage_mem_languageSteps book isListed
          rw [leftBy.locate_directory isOpened
            (plainLanguages language isListed)] at denotes
          exact ⟨_, isOpened, rfl, Except.ok.inj denotes⟩ }

/--
A run over plain names that succeeds leaves a complete pack and nothing else,
and reports every pair in writing order. A device would swallow what is written
to it, so none may have the name of an artifact.
-/
theorem writePack_completePack
    {fileSystem : FileSystem}
    {report : RunReport}
    (plainLanguages :
      ∀ language ∈ languages.list, language.IsPlain)
    (plainCategories :
      ∀ category ∈ book.categories.list, category.IsPlain)
    (noDevice :
      ∀ category ∈ book.categories.list,
        ∀ location,
          fileSystem.entryAt? (category.fileName :: location) ≠
            some .device)
    (finished :
      (writePack root languages book fileSystem).result = .ok report) :
    CompletePack root languages book fileSystem
        (writePack root languages book fileSystem).fileSystem ∧
      report.root = root ∧
      report.languages = languages.list.length ∧
      report.categories = book.categories.list.length ∧
      report.artifacts = artifactRecords root languages book ∧
      report.digest = Digest.ofQueries (book.queries languages) := by
  refine ⟨?_, report_of_finished finished⟩
  obtain ⟨unstopped, _⟩ := result_eq_ok_iff.mp finished
  have made := made_of_unstopped unstopped
  rw [fileSystem_writePack, carryOut_plan_of_made made]
  rw [carryOut_plan_of_made made] at unstopped
  obtain ⟨⟨base, leftBy⟩, _, _⟩ :=
    carryOut_languageSteps plainLanguages plainCategories made
  rw [completed_carryOut_of_stopped?_eq_none unstopped] at leftBy
  exact leftBy.completePack plainLanguages plainCategories noDevice rfl
    (carryOut_keepsEntries root _ _)

/-- Two languages and a category with a default, written below a new root. -/
theorem writePack_completePack_bare :
    let root : Path := ⟨"out"⟩
    let languages : Languages := .ofNames ["go", "rust"]
    let book : QueryBook :=
      ⟨.empty, .ofEntries [⟨⟨"functions"⟩, "(function) @f"⟩]⟩
    let outcome := writePack root languages book .bare
    ∃ report,
      outcome.result = .ok report ∧
        CompletePack root languages book .bare outcome.fileSystem ∧
        report.artifacts = artifactRecords root languages book := by
  intro root languages book outcome
  have unstopped :
      (carryOut root (plan languages book) .bare).stopped? = none := by
    decide +kernel
  have finished := result_eq_ok_iff.mpr ⟨unstopped, rfl⟩
  obtain ⟨complete, _, _, _, records, _⟩ :=
    writePack_completePack (by decide) (by decide)
      (by simp [FileSystem.bare, FileSystem.entryAt?]) finished
  exact ⟨_, finished, complete, records⟩

end Plain

end QueryPack
