import QueryPack.Path
import QueryPack.EffectiveQuery

namespace QueryPack

/-!
# Where a query is stored

The artifact of a pair is the file `<root>/<language>/<category>.scm`. Paths
are joined as text, so a name may reach further than its own directory; nothing
here forbids that.
-/

namespace Layout

/-- The root directory of a run that names none. -/
def defaultRoot : Path :=
  ⟨"resources/tree-sitter-queries"⟩

/-- The directory that holds the artifacts of a language. -/
def directory (root : Path) (language : Language) : Path :=
  root.join language.name

/-- The file that holds the query of a pair. -/
def file (root : Path) (language : Language) (category : Category) : Path :=
  (directory root language).join category.fileName

end Layout

/-- One artifact that a run has written. -/
structure Artifact where
  language : Language
  category : Category
  path : Path
  source : Provenance
  bytes : Nat
  deriving Repr, DecidableEq

namespace Artifact

/-- The record of writing an effective query under a root. -/
def ofQuery (root : Path) (query : EffectiveQuery) : Artifact where
  language := query.language
  category := query.category
  path := Layout.file root query.language query.category
  source := query.source
  bytes := query.bytes

end Artifact

end QueryPack
