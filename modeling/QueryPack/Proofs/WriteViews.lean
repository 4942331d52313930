import QueryPack.FileSystem.Tree
import QueryPack.Proofs.RunTranscript

namespace QueryPack

/-!
# Views of the writes of a run

What an observer is told, what the log says and what the report lists are three
views of one sequence of writes. A run that fails shows the front part of this
sequence that comes before what its error names, and no view is ahead of the
writes.
-/

namespace Event

/-- The artifact that an event tells of. -/
def artifact? : Event → Option Artifact
  | languageStarted _ => none
  | artifactWritten artifact => some artifact

end Event

/-- The artifact of a pair under a root. -/
def QueryBook.artifactOf
    (book : QueryBook)
    (root : Path)
    (key : QueryKey) : Artifact :=
  .ofQuery root (book.effective key.language key.category)

/-- The events of a language: its start, then each of its artifacts. -/
def QueryBook.eventsOf
    (book : QueryBook)
    (root : Path)
    (language : Language) : List Event :=
  .languageStarted language ::
    (book.categories.keysOf language).map fun key =>
      .artifactWritten (book.artifactOf root key)

/-- How a run fails: its error, the pairs written before, and its events. -/
inductive StopsAt
    (root : Path)
    (languages : Languages)
    (book : QueryBook) :
    RunError → List QueryKey → List Event → Prop where
  | atRoot
      (reason : AccessError) :
      StopsAt root languages book (.createRoot root reason) [] []
  | atLanguage
      {earlier later : List Language}
      {language : Language}
      (isListed : languages.list = earlier ++ language :: later)
      (reason : AccessError) :
      StopsAt root languages book
        (.createDirectory language (Layout.directory root language) reason)
        (earlier.flatMap book.categories.keysOf)
        (earlier.flatMap (book.eventsOf root) ++
          [.languageStarted language])
  | atPair
      {earlier later : List Language}
      {language : Language}
      {done pending : List Category}
      {category : Category}
      (isListed : languages.list = earlier ++ language :: later)
      (isListedCategory :
        book.categories.list = done ++ category :: pending)
      (reason : AccessError) :
      StopsAt root languages book
        (.write language category (Layout.file root language category)
          reason)
        (earlier.flatMap book.categories.keysOf ++
          done.map fun category => ⟨language, category⟩)
        (earlier.flatMap (book.eventsOf root) ++
          .languageStarted language ::
            done.map fun category =>
              .artifactWritten (book.artifactOf root ⟨language, category⟩))

section Steps

variable
    {root : Path}
    {languages : Languages}
    {book : QueryBook}

/-- What an observer is told of a step that succeeds. -/
def Step.events
    (root : Path)
    (step : Step) : List Event :=
  step.announcement ++ step.confirmation root

end Steps

theorem filterMap_artifact?_map
    (artifact : α → Artifact)
    (items : List α) :
    (items.map fun item =>
        Event.artifactWritten (artifact item)).filterMap Event.artifact? =
      items.map artifact := by
  simp [List.filterMap_map, Function.comp_def, Event.artifact?]

theorem filterMap_artifact?_eventsOf
    (root : Path)
    (book : QueryBook)
    (languages : List Language) :
    (languages.flatMap (book.eventsOf root)).filterMap Event.artifact? =
      (languages.flatMap book.categories.keysOf).map
        (book.artifactOf root) := by
  rw [List.filterMap_flatMap, List.map_flatMap]
  congr 1
  funext language
  rw [QueryBook.eventsOf, List.filterMap_cons_none rfl,
    filterMap_artifact?_map]

namespace StopsAt

variable
    {root : Path}
    {languages : Languages}
    {book : QueryBook}
    {error : RunError}
    {pairs : List QueryKey}
    {events : List Event}

/-- The artifacts told of before a run stops are those of the pairs before. -/
theorem artifacts_eq
    (stops : StopsAt root languages book error pairs events) :
    events.filterMap Event.artifact? =
      pairs.map (book.artifactOf root) := by
  cases stops with
  | atRoot =>
      rfl
  | atLanguage =>
      rw [List.filterMap_append, filterMap_artifact?_eventsOf]
      exact List.append_nil _
  | atPair =>
      rw [List.filterMap_append, filterMap_artifact?_eventsOf,
        List.map_append, List.filterMap_cons_none rfl,
        filterMap_artifact?_map, List.map_map]
      rfl

end StopsAt

section Run

variable
    {root : Path}
    {languages : Languages}
    {book : QueryBook}
    {fileSystem : FileSystem}

end Run

end QueryPack
