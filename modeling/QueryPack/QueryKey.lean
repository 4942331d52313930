import Std.Data.ExtTreeMap
import QueryPack.Categories
import QueryPack.Languages

namespace QueryPack

/-!
# Keys of queries

A query is filed under a language and a category. Keys are ordered by language
and then by category, each compared by the code points of its name, which is
also the order of the names' UTF-8 bytes.
-/

/-- The language and category that a query is for. -/
structure QueryKey where
  language : Language
  category : Category
  deriving Repr, DecidableEq

namespace QueryKey

/-- By language, then by category. -/
instance : Ord QueryKey where
  compare first second :=
    compareLex
      (compareOn fun key => key.language.name)
      (compareOn fun key => key.category.name)
      first second

theorem compare_eq (first second : QueryKey) :
    compare first second =
      (compare first.language.name second.language.name).then
        (compare first.category.name second.category.name) :=
  rfl

instance : Std.TransOrd QueryKey :=
  inferInstanceAs <| Std.TransCmp <|
    compareLex
      (compareOn fun key : QueryKey => key.language.name)
      (compareOn fun key : QueryKey => key.category.name)

instance : Std.LawfulEqOrd QueryKey where
  eq_of_compare := by
    intro first second same
    rw [compare_eq, Ordering.then_eq_eq] at same
    obtain ⟨⟨firstLanguage⟩, ⟨firstCategory⟩⟩ := first
    obtain ⟨⟨secondLanguage⟩, ⟨secondCategory⟩⟩ := second
    have sameLanguage : firstLanguage = secondLanguage :=
      Std.LawfulEqOrd.eq_of_compare same.1
    have sameCategory : firstCategory = secondCategory :=
      Std.LawfulEqOrd.eq_of_compare same.2
    rw [sameLanguage, sameCategory]

end QueryKey

end QueryPack
