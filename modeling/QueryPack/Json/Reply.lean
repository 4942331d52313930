import QueryPack.Json
import QueryPack.Report

namespace QueryPack

/-!
# The JSON form of results

Every result that a command prints as data, with the names of its fields in
alphabetical order, and the reply that carries them.
-/

/-- A query without its text. -/
def EffectiveQuery.sourceDocument (query : EffectiveQuery) : Json :=
  .object [
    ("category", .string query.category.name),
    ("language", .string query.language.name),
    ("source", .string query.source.label)]

/-- A query in full. -/
def EffectiveQuery.document (query : EffectiveQuery) : Json :=
  .object [
    ("category", .string query.category.name),
    ("expression", .string query.expression),
    ("language", .string query.language.name),
    ("source", .string query.source.label)]

/-- The record of an artifact. -/
def Artifact.document (artifact : Artifact) : Json :=
  .object [
    ("bytes", .number artifact.bytes),
    ("category", .string artifact.category.name),
    ("language", .string artifact.language.name),
    ("path", .string artifact.path.text),
    ("source", .string artifact.source.label)]

/-- The report of a run. -/
def RunReport.document (report : RunReport) : Json :=
  .object [
    ("artifacts", .array (report.artifacts.map Artifact.document)),
    ("categories", .number report.categories),
    ("digest", .string report.digest),
    ("languages", .number report.languages),
    ("root", .string report.root.text)]

/-- The one document that a command prints in JSON format. -/
structure Reply where
  ok : Bool
  command : String
  data : Json

namespace Reply

/-- The reply of a success. -/
def success (command : String) (data : Json) : Reply :=
  ⟨true, command, data⟩

/-- The reply of a failure, which carries its message. -/
def failure (command message : String) : Reply :=
  ⟨false, command, .object [("error", .string message)]⟩

/-- The reply as a JSON value. -/
def document (reply : Reply) : Json :=
  .object [
    ("command", .string reply.command),
    ("data", reply.data),
    ("ok", .bool reply.ok)]

end Reply

end QueryPack
