import QueryPack.Categories

namespace QueryPack

/-!
# The categories of a run that names none

Six categories. Their defaults are empty, so a pair without an override of its
own gets a placeholder.
-/

def builtinCategoryNames : List String :=
  ["imports", "functions", "classes", "decorators", "generics", "patternMatching"]

/-- The built-in categories, with empty defaults. -/
def Categories.builtin : Categories :=
  Categories.ofNames builtinCategoryNames

end QueryPack
