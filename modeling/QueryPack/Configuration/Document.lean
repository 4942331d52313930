import QueryPack.Configuration
import QueryPack.Toml.QuoteStyle

namespace QueryPack

/-!
# Configurations as documents

A configuration is read from the text of a document by two keys of it. Every
other key is ignored. It is written with the output root first and then a table
for each language, in order.
-/

/--
The key under which a date stands when it is taken for a table.

A date is accepted where a table of queries is expected: it counts as a table
with this one key, which holds its canonical text.
-/
def dateTimeKey : String :=
  "$__toml_private_datetime"

/-- The queries of a table of texts, if it holds nothing else. -/
def queriesOfEntries? : List (String × Toml.Value) → Option CategoryQueries
  | [] => some ∅
  | (category, .string query) :: rest => do
      return (← queriesOfEntries? rest).insert category query
  | _ => none

/-- The queries that the value of a language stands for. -/
def queriesOfValue? : Toml.Value → Option CategoryQueries
  | .table entries => queriesOfEntries? entries
  | .dateTime value => some ((∅ : CategoryQueries).insert dateTimeKey value.text)
  | _ => none

def queriesByLanguage? :
    List (String × Toml.Value) → Option (Std.ExtTreeMap String CategoryQueries)
  | [] => some ∅
  | (language, value) :: rest => do
      return (← queriesByLanguage? rest).insert language (← queriesOfValue? value)

namespace Configuration

/-- The output root that a document asks for; `none` if it is no text. -/
def outputOfDocument? (document : Toml.Document) : Option (Option String) :=
  match document.get? "output" with
  | none => some none
  | some (.string output) => some (some output)
  | some _ => none

/-- The queries that a document defines; `none` if they are not texts in two levels. -/
def queriesOfDocument? (document : Toml.Document) :
    Option (Std.ExtTreeMap String CategoryQueries) :=
  match document.get? "overrides" with
  | none => some ∅
  | some (.table entries) => queriesByLanguage? entries
  | some _ => none

/-- The configuration that a document stands for, if it is well-typed. -/
def ofDocument? (document : Toml.Document) : Option Configuration := do
  return ⟨← outputOfDocument? document, ← queriesOfDocument? document⟩

def ofText? (text : String) : Option Configuration := do
  ofDocument? (← Toml.document? text)

def assignmentLine (key : List Char) (text : String) : List Char :=
  key ++ ' ' :: '=' :: ' ' :: Toml.writeText text ++ ['\n']

def languageLines (language : String) (queries : CategoryQueries) : List Char :=
  "[overrides.".toList ++ Toml.writeKey language ++ [']', '\n'] ++
    queries.toList.flatMap fun (category, query) =>
      assignmentLine (Toml.writeKey category) query

/-- The parts of a written configuration, with an empty line between any two. -/
def sections (config : Configuration) : List (List Char) :=
  (config.output?.map (assignmentLine "output".toList)).toList ++
    config.queries.toList.map fun (language, queries) => languageLines language queries

def text (config : Configuration) : String :=
  String.ofList (['\n'].intercalate config.sections)

end Configuration

end QueryPack
