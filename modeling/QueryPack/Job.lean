import QueryPack.Categories.Builtin
import QueryPack.Configuration
import QueryPack.Languages.Builtin
import QueryPack.Overrides.Builtin
import QueryPack.Run

namespace QueryPack

/-!
# One run's inputs

A job brings together the languages, the categories, the overrides and the
output root. It starts from the built-in ones; a configuration is laid over them.
-/

/-- Everything that decides what a run writes and where. -/
structure Job where
  languages : Languages
  categories : Categories
  overrides : Overrides
  root : Path

namespace Job

/-- The built-in languages, categories and overrides, written under a root. -/
def builtin (root : Path) : Job where
  languages := .builtin
  categories := .builtin
  overrides := .builtin
  root := root

/-- The root of a run: the one asked for, else the configuration's, else the default. -/
def chooseRoot (config? : Option Configuration) (out? : Option Path) : Path :=
  match out?, config? with
  | some out, _ => out
  | none, some config => config.root
  | none, none => Layout.defaultRoot

/-- The built-in job with a configuration laid over it. -/
def ofConfiguration (config? : Option Configuration) (out? : Option Path) : Job :=
  let job := builtin (chooseRoot config? out?)
  match config? with
  | some config => { job with overrides := job.overrides.overlay config.overrides }
  | none => job

/-- What decides the job's effective queries. -/
def book (job : Job) : QueryBook :=
  ⟨job.overrides, job.categories⟩

/-- The number of artifacts that a run writes. -/
def size (job : Job) : Nat :=
  job.languages.size * job.categories.size

/-- The overrides that no artifact can show. -/
def strays (job : Job) : List StrayOverride :=
  job.overrides.strays job.languages job.categories

/-- Warn of overrides outside the pack, then write every artifact. -/
def run (job : Job) (fileSystem : FileSystem) : RunOutcome :=
  let outcome :=
    QueryPack.writePack job.root job.languages job.book fileSystem
  { outcome with
    notices :=
      job.overrides.strayNotices job.languages job.categories ++
        outcome.notices }

end Job

end QueryPack
