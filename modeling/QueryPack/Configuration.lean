import QueryPack.Layout

namespace QueryPack

/-!
# Configurations

A configuration may name an output root and may define queries by language and
category. Both parts are optional; a configuration without either changes
nothing.
-/

/-- The queries of one language, by category. -/
abbrev CategoryQueries := Std.ExtTreeMap String String

/-- What a configuration file says. -/
structure Configuration where
  output? : Option String
  queries : Std.ExtTreeMap String CategoryQueries

namespace Configuration

def empty : Configuration where
  output? := none
  queries := ∅

def root (config : Configuration) : Path :=
  match config.output? with
  | some output => ⟨output⟩
  | none => Layout.defaultRoot

def definitions (config : Configuration) : List Override :=
  config.queries.toList.flatMap fun (language, queries) =>
    queries.toList.map fun (category, query) => ⟨⟨language⟩, ⟨category⟩, query⟩

/-- The configuration's queries as overrides; empty ones do not enter them. -/
def overrides (config : Configuration) : Overrides :=
  Overrides.ofList config.definitions

end Configuration

end QueryPack
