import QueryPack.Layout

namespace QueryPack

/-!
# The report of a finished run

What was written where, in writing order, and the digest of it all.
-/

/-- The outcome of a run that wrote everything. -/
structure RunReport where
  root : Path
  languages : Nat
  categories : Nat
  artifacts : List Artifact
  digest : String
  deriving Repr, DecidableEq

namespace RunReport

/-- The number of artifacts whose query comes from a source. -/
def count (report : RunReport) (source : Provenance) : Nat :=
  report.artifacts.countP fun artifact => artifact.source = source

/-- The report as lines of text, the last one without a line break. -/
def summary (report : RunReport) : String :=
  "  Languages:    " ++ toString report.languages ++ "\n" ++
  "  Categories:   " ++ toString report.categories ++ "\n" ++
  "  Artifacts:    " ++ toString report.artifacts.length ++ "\n" ++
  "  Overrides:    " ++ toString (report.count .override) ++ "\n" ++
  "  Defaults:     " ++ toString (report.count .categoryDefault) ++ "\n" ++
  "  Placeholders: " ++ toString (report.count .placeholder) ++ "\n" ++
  "  Digest:       " ++ report.digest

end RunReport

end QueryPack
