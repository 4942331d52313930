import QueryPack.FileSystem.Tree
import QueryPack.Proofs.CompletePack
import QueryPack.Proofs.ProgramRuns

namespace QueryPack

/-!
# The reply to a program

In JSON format a run prints one document and a line break. A reader of JSON
finds in it whether the run succeeded, the command, and what the command has to
say: its answer, field by field, or the text of its failure. Every text in it
is the text that was meant, whatever characters it is made of.
-/

/-- What a command that succeeds has to say. -/
inductive Answer where
  | reports (report : RunReport)
  | lists (queries : List EffectiveQuery)
  | shows (query : EffectiveQuery)
  /-- A configuration was written to a path. -/
  | stores (path : Path)

/-- The record of an artifact: its pair, its file, its source and its size. -/
inductive Artifact.IsToldBy (artifact : Artifact) : Json → Prop where
  | record
      {source : String}
      (isCalled : artifact.source.IsCalled source) :
      IsToldBy artifact
        (.object [
          ("bytes", .number artifact.bytes),
          ("category", .string artifact.category.name),
          ("language", .string artifact.language.name),
          ("path", .string artifact.path.text),
          ("source", .string source)])

/-- The entry of a listing: a pair, and where its query comes from. -/
inductive EffectiveQuery.IsListedBy (query : EffectiveQuery) : Json → Prop where
  | entry
      {source : String}
      (isCalled : query.source.IsCalled source) :
      IsListedBy query
        (.object [
          ("category", .string query.category.name),
          ("language", .string query.language.name),
          ("source", .string source)])

/-- The data that tell an answer. -/
inductive Answer.IsToldBy : Answer → Json → Prop where
  | reports
      {report : RunReport}
      {records : List Json}
      (recorded :
        List.Forall₂ Artifact.IsToldBy report.artifacts records) :
      IsToldBy (.reports report)
        (.object [
          ("artifacts", .array records),
          ("categories", .number report.categories),
          ("digest", .string report.digest),
          ("languages", .number report.languages),
          ("root", .string report.root.text)])
  | lists
      {queries : List EffectiveQuery}
      {entries : List Json}
      (listed : List.Forall₂ EffectiveQuery.IsListedBy queries entries) :
      IsToldBy (.lists queries) (.array entries)
  | shows
      {query : EffectiveQuery}
      {source : String}
      (isCalled : query.source.IsCalled source) :
      IsToldBy (.shows query)
        (.object [
          ("category", .string query.category.name),
          ("expression", .string query.expression),
          ("language", .string query.language.name),
          ("source", .string source)])
  | stores
      {path : Path} :
      IsToldBy (.stores path) (.object [("path", .string path.text)])

/-- The answer of a command that works on a job, if there is a job. -/
def Invocation.answerOfJob
    (diagnose : String → String)
    (invocation : Invocation)
    (fileSystem : FileSystem)
    (result : Job → Except CommandError Answer) : Except CommandError Answer :=
  match invocation.configuration diagnose fileSystem with
  | .error error => .error (.config error)
  | .ok config? => result (Job.ofConfiguration config? invocation.out?)

/-- What a command has to say to a program, or why it has nothing to say. -/
def Invocation.answer
    (diagnose : String → String)
    (invocation : Invocation)
    (fileSystem : FileSystem) : Except CommandError Answer :=
  match invocation.command with
  | .generate =>
      invocation.answerOfJob diagnose fileSystem fun job =>
        match (job.run fileSystem).result with
        | .error error => .error (.run error)
        | .ok report => .ok (.reports report)
  | .list =>
      invocation.answerOfJob diagnose fileSystem fun job =>
        .ok (.lists
          (job.languages.list.flatMap fun language =>
            job.categories.list.map fun category =>
              job.book.effective language category))
  | .showQuery language category =>
      invocation.answerOfJob diagnose fileSystem fun job =>
        .ok (.shows (job.book.effective ⟨language⟩ ⟨category⟩))
  | .init force =>
      let path := invocation.config?.getD ⟨"querygen.toml"⟩
      match
        Configuration.store fileSystem path starterConfiguration force with
      | .error error => .error (.store error)
      | .ok _ => .ok (.stores path)

section Answers

/-- The data that the program makes of an answer. -/
def Answer.document : Answer → Json
  | .reports report => report.document
  | .lists queries => .array (queries.map EffectiveQuery.sourceDocument)
  | .shows query => query.document
  | .stores path => .object [("path", .string path.text)]

end Answers

section Outcome

variable
    {diagnose : String → String}
    {invocation : Invocation}
    {fileSystem : FileSystem}
    {presentation : Presentation}

end Outcome

section Run

variable
    {diagnose : String → String}
    {invocation : Invocation}
    {fileSystem : FileSystem}

end Run

end QueryPack
