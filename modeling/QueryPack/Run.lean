import QueryPack.Digest.Frame
import QueryPack.FileSystem
import QueryPack.Notice
import QueryPack.Report

namespace QueryPack

/-!
# Writing a pack

A run is a plan: make the root, then for each language make its directory and
write its artifacts. The plan is fixed before anything is written. The steps
are carried out in order until one fails, and what the run tells the world
(events, notices, report or error) is read off the steps that were carried out.
Nothing that was written is taken back.
-/

/-- One step of a run. -/
inductive Step where
  | makeRoot
  | openLanguage (language : Language)
  | writeArtifact (query : EffectiveQuery)
  deriving Repr, DecidableEq

/-- The steps for one language, in category order. -/
def languagePlan (book : QueryBook) (language : Language) : List Step :=
  .openLanguage language :: (book.ofLanguage language).map .writeArtifact

/-- The steps of a run over the languages. -/
def plan (languages : Languages) (book : QueryBook) : List Step :=
  .makeRoot :: languages.list.flatMap (languagePlan book)

/-- Why a run fails: the step that failed, and the reason. -/
inductive RunError where
  | createRoot (path : Path) (reason : AccessError)
  | createDirectory (language : Language) (path : Path) (reason : AccessError)
  | write (language : Language) (category : Category) (path : Path) (reason : AccessError)
  deriving Repr, DecidableEq

namespace RunError

def reason : RunError → AccessError
  | createRoot _ reason => reason
  | createDirectory _ _ reason => reason
  | write _ _ _ reason => reason

def message : RunError → String
  | createRoot path reason =>
      "Failed to create output root " ++ path.text ++ ": " ++ reason.message
  | createDirectory language path reason =>
      "Failed to create directory for " ++ language.name ++ " at " ++ path.text ++
        ": " ++ reason.message
  | write language category path reason =>
      "Failed to write " ++ language.name ++ "/" ++ category.name ++ " to " ++
        path.text ++ ": " ++ reason.message

end RunError

/-- What an observer of a run is told. -/
inductive Event where
  | languageStarted (language : Language)
  | artifactWritten (artifact : Artifact)
  deriving Repr, DecidableEq

namespace Step

def perform (root : Path) (step : Step) (fileSystem : FileSystem) : FileSystem.Attempt :=
  match step with
  | makeRoot =>
      fileSystem.createDirectories root
  | openLanguage language =>
      fileSystem.createDirectories (Layout.directory root language)
  | writeArtifact query =>
      FileSystem.Attempt.ofExcept fileSystem
        (fileSystem.writeFile (Layout.file root query.language query.category)
          query.expression.toUTF8)

def error (root : Path) (step : Step) (reason : AccessError) : RunError :=
  match step with
  | makeRoot => .createRoot root reason
  | openLanguage language =>
      .createDirectory language (Layout.directory root language) reason
  | writeArtifact query =>
      .write query.language query.category
        (Layout.file root query.language query.category) reason

def announcement : Step → List Event
  | makeRoot => []
  | openLanguage language => [.languageStarted language]
  | writeArtifact _ => []

def confirmation (root : Path) : Step → List Event
  | makeRoot => []
  | openLanguage _ => []
  | writeArtifact query => [.artifactWritten (Artifact.ofQuery root query)]

def query? : Step → Option EffectiveQuery
  | makeRoot => none
  | openLanguage _ => none
  | writeArtifact query => some query

end Step

/-- How far the steps of a plan were carried out, and what that left behind. -/
structure Progress where
  completed : List Step
  stopped? : Option (Step × AccessError)
  fileSystem : FileSystem

/-- Carry out steps in order until one fails. -/
def carryOut (root : Path) : List Step → FileSystem → Progress
  | [], fileSystem => ⟨[], none, fileSystem⟩
  | step :: rest, fileSystem =>
      match step.perform root fileSystem with
      | ⟨after, some reason⟩ => ⟨[], some (step, reason), after⟩
      | ⟨after, none⟩ =>
          let later := carryOut root rest after
          ⟨step :: later.completed, later.stopped?, later.fileSystem⟩

/-- What was carried out is a front part of the plan. -/
theorem completed_carryOut_isPrefix (root : Path) (steps : List Step)
    (fileSystem : FileSystem) :
    (carryOut root steps fileSystem).completed <+: steps := by
  induction steps generalizing fileSystem with
  | nil =>
      exact List.prefix_refl []
  | cons step rest inductionHypothesis =>
      rw [carryOut]
      split
      next => exact List.nil_prefix
      next after _ => exact List.cons_prefix_cons.2 ⟨rfl, inductionHypothesis after⟩

/-- A run that never stopped has carried out its whole plan. -/
theorem completed_carryOut_of_stopped?_eq_none {root : Path} {steps : List Step}
    {fileSystem : FileSystem}
    (unstopped : (carryOut root steps fileSystem).stopped? = none) :
    (carryOut root steps fileSystem).completed = steps := by
  induction steps generalizing fileSystem with
  | nil =>
      rfl
  | cons step rest inductionHypothesis =>
      rw [carryOut] at unstopped ⊢
      split at unstopped
      next => simp at unstopped
      next after _ =>
          dsimp only
          rw [inductionHypothesis unstopped]

namespace Progress

def written (progress : Progress) : List EffectiveQuery :=
  progress.completed.filterMap Step.query?

/-- What an observer was told, in order. -/
def events (root : Path) (progress : Progress) : List Event :=
  (progress.completed.flatMap fun step => step.announcement ++ step.confirmation root) ++
    match progress.stopped? with
    | some (step, _) => step.announcement
    | none => []

end Progress

/-- The notice that an artifact was written. -/
def EffectiveQuery.writtenNotice (query : EffectiveQuery) : Notice :=
  .artifactWritten query.language query.category query.source

/-- Everything that a run gives back. -/
structure RunOutcome where
  result : Except RunError RunReport
  fileSystem : FileSystem
  events : List Event
  notices : List Notice

namespace RunReport

/-- The report of a run that has written the given queries. -/
def ofQueries (root : Path) (languages : Languages) (categories : Categories)
    (queries : List EffectiveQuery) : RunReport where
  root := root
  languages := languages.size
  categories := categories.size
  artifacts := queries.map (Artifact.ofQuery root)
  digest := Digest.ofQueries queries

/-- The notice that closes a run. -/
def finishedNotice (report : RunReport) : Notice :=
  .runFinished report.artifacts.length (report.count .override)
    (report.count .placeholder)

end RunReport

/-- Write the effective query of every pair of the pack under a root. -/
def writePack (root : Path) (languages : Languages) (book : QueryBook)
    (fileSystem : FileSystem) : RunOutcome :=
  let progress := carryOut root (plan languages book) fileSystem
  let opening : List Notice :=
    .runStarted languages.size book.categories.size root.text ::
      progress.written.map EffectiveQuery.writtenNotice
  match progress.stopped? with
  | some (step, reason) =>
      { result := .error (step.error root reason)
        fileSystem := progress.fileSystem
        events := progress.events root
        notices := opening }
  | none =>
      let report :=
        RunReport.ofQueries root languages book.categories progress.written
      { result := .ok report
        fileSystem := progress.fileSystem
        events := progress.events root
        notices := opening ++ [report.finishedNotice] }

end QueryPack
