import QueryPack.Languages

namespace QueryPack

/-!
# The languages of a run that names none

Forty-two languages, in the order they are written.
-/

/-- The names of the built-in languages, in writing order. -/
def builtinLanguageNames : List String :=
  [ -- general purpose
    "javascript", "typescript", "python", "java", "c_sharp", "php",
    -- systems and numerics
    "go", "rust", "cpp", "c", "fortran", "cobol",
    -- mobile
    "swift", "kotlin", "dart", "objective_c",
    -- functional
    "scala", "haskell", "elixir", "erlang", "clojure", "ocaml", "f_sharp",
    -- data
    "r", "julia", "sql",
    -- markup and data formats
    "html", "css", "json", "yaml", "toml",
    -- scripting
    "bash", "powershell", "perl", "ruby", "lua", "groovy",
    -- recent
    "zig", "nim", "crystal", "solidity", "vb" ]

/-- The built-in languages. -/
def Languages.builtin : Languages :=
  Languages.ofNames builtinLanguageNames

end QueryPack
