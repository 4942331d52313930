import QueryPack.Overrides

namespace QueryPack

/-!
# The language-specific queries that every run starts from

A table of tree queries by language and category, and the overrides that hold
exactly this table.
-/

/-- The built-in queries of each language, by category. -/
def builtinTable : List (String × List (String × String)) :=
  [
    ("typescript", [
      ("imports", "[(import_statement) (import_require)] @import"),
      ("functions", "[(function_declaration) (method_definition) (arrow_function)] @function"),
      ("classes", "[(class_declaration) (interface_declaration) (type_alias_declaration)] @class"),
      ("decorators", "[(decorator) @decorator]"),
      ("generics", "[(type_parameter) @generic]") ]),
    ("javascript", [
      ("imports", "[(import_statement) (import_require)] @import"),
      ("functions", "[(function_declaration) (method_definition) (arrow_function)] @function"),
      ("classes", "[(class_declaration)] @class"),
      ("decorators", "[(decorator) @decorator]") ]),
    ("python", [
      ("imports", "[(import_statement) (import_from_statement)] @import"),
      ("functions", "[(function_definition)] @function"),
      ("classes", "[(class_definition)] @class"),
      ("decorators", "[(decorator) @decorator]") ]),
    ("java", [
      ("imports", "[(import_declaration)] @import"),
      ("functions", "[(method_declaration) (constructor_declaration)] @function"),
      ("classes", "[(class_declaration) (interface_declaration) (enum_declaration)] @class"),
      ("decorators", "[(marker_annotation) (annotation)] @decorator"),
      ("generics", "[(type_parameter) @generic]") ]),
    ("c_sharp", [
      ("imports", "[(using_directive)] @import"),
      ("functions", "[(method_declaration)] @function"),
      ("classes", "[(class_declaration) (interface_declaration) (struct_declaration)] @class"),
      ("decorators", "[(attribute_list) @decorator]"),
      ("generics", "[(type_parameter_list) @generic]") ]),
    ("php", [
      ("imports", "[(namespace_use_declaration)] @import"),
      ("functions", "[(function_definition) (method_declaration)] @function"),
      ("classes", "[(class_declaration) (interface_declaration) (trait_declaration)] @class"),
      ("decorators", "[(attribute_group) @decorator]") ]),
    ("rust", [
      ("imports", "[(use_declaration)] @import"),
      ("functions", "[(function_item)] @function"),
      ("classes", "[(struct_item) (enum_item) (trait_item) (impl_item)] @class"),
      ("decorators", "[(attribute_item) @decorator]"),
      ("generics", "[(type_parameters) @generic]"),
      ("patternMatching", "[(match_expression)] @match") ]),
    ("go", [
      ("imports", "[(import_spec)] @import"),
      ("functions", "[(function_declaration) (method_declaration)] @function"),
      ("classes", "[(type_spec)] @class"),
      ("generics", "[(type_parameter_list) @generic]") ]),
    ("cpp", [
      ("imports", "[(preproc_include)] @import"),
      ("functions", "[(function_definition)] @function"),
      ("classes", "[(class_specifier) (struct_specifier)] @class"),
      ("decorators", "[(attribute_specifier) @decorator]"),
      ("generics", "[(template_parameter_list) @generic]") ]),
    ("c", [
      ("imports", "[(preproc_include)] @import"),
      ("functions", "[(function_definition)] @function"),
      ("classes", "[(struct_specifier) (enum_specifier)] @class") ]),
    ("bash", [
      ("functions", "[(function_definition)] @function") ]),
    ("ruby", [
      ("imports", "[(call method: (identifier) @method (#match? @method \"^(require|include|extend)$\"))] @import"),
      ("functions", "[(method)] @function"),
      ("classes", "[(class) (module)] @class") ]),
    ("kotlin", [
      ("imports", "[(import_header)] @import"),
      ("functions", "[(function_declaration)] @function"),
      ("classes", "[(class_declaration) (object_declaration)] @class"),
      ("decorators", "[(annotation) @decorator]"),
      ("generics", "[(type_parameter) @generic]") ]),
    ("swift", [
      ("imports", "[(import_declaration)] @import"),
      ("functions", "[(function_declaration)] @function"),
      ("classes", "[(class_declaration) (struct_declaration) (protocol_declaration) (extension_declaration)] @class"),
      ("decorators", "[(attribute) @decorator]"),
      ("generics", "[(generic_parameter) @generic]") ]),
    ("lua", [
      ("functions", "[(function_call) (function_definition)] @function") ]),
    ("scala", [
      ("imports", "[(import_declaration)] @import"),
      ("functions", "[(function_definition)] @function"),
      ("classes", "[(class_definition) (object_definition) (trait_definition)] @class"),
      ("generics", "[(type_parameters) @generic]") ]),
    ("dart", [
      ("imports", "[(import_or_export)] @import"),
      ("functions", "[(function_signature)] @function"),
      ("classes", "[(class_definition)] @class"),
      ("decorators", "[(annotation) @decorator]") ]),
    ("elixir", [
      ("functions", "[(call target: (identifier) @def (#match? @def \"^(def|defp)$\"))] @function"),
      ("classes", "[(call target: (identifier) @defmodule (#match? @defmodule \"^defmodule$\"))] @class") ]) ]

/-- The built-in definitions one by one, in table order. -/
def builtinOverrides : List Override :=
  builtinTable.flatMap fun (language, queries) =>
    queries.map fun (category, query) => ⟨⟨language⟩, ⟨category⟩, query⟩

/-- The built-in queries as overrides. -/
def Overrides.builtin : Overrides :=
  Overrides.ofList builtinOverrides

end QueryPack
