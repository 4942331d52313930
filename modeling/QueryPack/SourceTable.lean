import QueryPack.EffectiveQuery
import QueryPack.Text.Table

namespace QueryPack

/-!
# The source table

A matrix of languages and categories that marks where each query comes from.
-/

/-- The mark for a source; a placeholder is only a dash. -/
def Provenance.mark : Provenance → String
  | .override => "override"
  | .categoryDefault => "default"
  | .placeholder => "-"

namespace QueryBook

/-- The name of a language and the marks of its queries, in category order. -/
def sourceRow (book : QueryBook) (language : Language) : List String :=
  language.name :: (book.ofLanguage language).map fun query => query.source.mark

/-- The table of all marks, with a row for each language. -/
def sourceTable (book : QueryBook) (languages : Languages) : Text.Table where
  header := "Language" :: book.categories.list.map Category.name
  rows := languages.list.map book.sourceRow

end QueryBook

end QueryPack
