import QueryPack.Report
import QueryPack.Text.Table

namespace QueryPack

/-!
# Coverage by language

How many artifacts of each language come from which source. Neighbouring
artifacts of one language share a row; a language that comes back later opens a
new one.
-/

namespace Coverage

/-- The sources of the artifacts of one language. -/
structure Row where
  language : String
  overrides : Nat
  defaults : Nat
  placeholders : Nat
  deriving Repr, DecidableEq

namespace Row

def start (language : String) : Row :=
  ⟨language, 0, 0, 0⟩

def count (row : Row) (source : Provenance) : Row :=
  match source with
  | .override => { row with overrides := row.overrides + 1 }
  | .categoryDefault => { row with defaults := row.defaults + 1 }
  | .placeholder => { row with placeholders := row.placeholders + 1 }

def total (row : Row) : Nat :=
  row.overrides + row.defaults + row.placeholders

def cells (row : Row) : List String :=
  [row.language, toString row.overrides, toString row.defaults, toString row.placeholders]

end Row

/-- One row for each run of neighbouring artifacts of the same language. -/
def rows : List Artifact → List Row
  | [] => []
  | artifact :: rest =>
      match rows rest with
      | [] => [(Row.start artifact.language.name).count artifact.source]
      | row :: rows =>
          if row.language = artifact.language.name then
            row.count artifact.source :: rows
          else
            (Row.start artifact.language.name).count artifact.source :: row :: rows

def table (rows : List Row) : Text.Table where
  header := ["Language", "Overrides", "Defaults", "Placeholders"]
  rows := rows.map Row.cells

/-- The text of a coverage table; nothing at all without rows. -/
def render (rows : List Row) : String :=
  if rows.isEmpty then
    ""
  else
    (table rows).render

end Coverage

/-- The coverage table of a report as text. -/
def RunReport.coverage (report : RunReport) : String :=
  Coverage.render (Coverage.rows report.artifacts)

end QueryPack
