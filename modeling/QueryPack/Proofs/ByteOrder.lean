import Mathlib.Data.List.Lex
import QueryPack.QueryKey

namespace QueryPack

/-!
# Names are ordered as their bytes are

Names are compared by the code points of their characters. UTF-8 keeps this
order: the bytes of a smaller character differ from those of a greater one
before either ends, and the first byte that differs is smaller. Keys are
therefore in the order of the bytes of their names.
-/

/-- The bytes of a text in UTF-8. -/
def utf8Bytes (text : String) : List UInt8 :=
  text.toUTF8.data.toList

theorem utf8Bytes_eq_flatMap
    (text : String) :
    utf8Bytes text = text.toList.flatMap String.utf8EncodeChar := by
  have encoded : text.toList.utf8Encode = text.toUTF8 :=
    String.utf8Encode_toList
  simp only [utf8Bytes, ← encoded, List.utf8Encode, List.data_toByteArray]

/-- The bytes of a smaller character are smaller, whatever follows. -/
theorem utf8EncodeChar_append_lt
    {first second : Char}
    (less : first < second)
    (rest otherRest : List UInt8) :
    String.utf8EncodeChar first ++ rest <
      String.utf8EncodeChar second ++ otherRest := by
  have lessValue : first.val.toNat < second.val.toNat := less
  have secondBound : second.val.toNat < 0x110000 := by
    rcases second.valid with low | ⟨_, high⟩
    · exact low.trans (by decide)
    · exact high
  -- A smaller number is smaller at the first base-64 digit that differs.
  have byDigit (value other : Nat) :
      value < other →
        value / 64 < other / 64 ∨
          value / 64 = other / 64 ∧ value % 64 < other % 64 := by
    omega
  have digits (value : Nat) :
      value / 4096 = value / 64 / 64 ∧
        value / 262144 = value / 64 / 64 / 64 := by
    omega
  have lowest := byDigit _ _ lessValue
  have middle := byDigit (first.val.toNat / 64) (second.val.toNat / 64)
  have highest :=
    byDigit (first.val.toNat / 64 / 64) (second.val.toNat / 64 / 64)
  unfold String.utf8EncodeChar
  dsimp only
  split_ifs <;>
    simp only [List.cons_append, List.nil_append, List.cons_lt_cons_iff,
      UInt8.lt_iff_toNat_lt, ← UInt8.toNat_inj, UInt8.toNat_ofNat', digits] <;>
    omega

/-- The bytes of smaller characters are smaller. -/
theorem flatMap_utf8EncodeChar_lt
    {first second : List Char}
    (less : first < second) :
    first.flatMap String.utf8EncodeChar <
      second.flatMap String.utf8EncodeChar := by
  induction less with
  | @nil character rest =>
      obtain ⟨byte, bytes, encoded⟩ :=
        List.exists_cons_of_ne_nil
          (String.utf8EncodeChar_ne_nil (c := character))
      simp [encoded]
  | @cons character _ _ _ inductionHypothesis =>
      exact List.Lex.append_left (· < ·) inductionHypothesis
        (String.utf8EncodeChar character)
  | rel lessCharacter =>
      simp only [List.flatMap_cons]
      exact utf8EncodeChar_append_lt lessCharacter _ _

/-- The bytes of a smaller text are smaller. -/
theorem utf8Bytes_lt_of_compare_eq_lt
    {first second : String}
    (less : compare first second = .lt) :
    utf8Bytes first < utf8Bytes second := by
  have lessText : first < second := compareOfLessAndEq_eq_lt.mp less
  simp only [utf8Bytes_eq_flatMap]
  exact flatMap_utf8EncodeChar_lt lessText

/-- One key comes before another by the bytes of its language, then of its category. -/
def QueryKey.Precedes (first second : QueryKey) : Prop :=
  utf8Bytes first.language.name < utf8Bytes second.language.name ∨
    first.language = second.language ∧
      utf8Bytes first.category.name < utf8Bytes second.category.name

namespace QueryKey

theorem precedes_of_compare_eq_lt
    {first second : QueryKey}
    (less : compare first second = .lt) :
    first.Precedes second := by
  rw [compare_eq, Ordering.then_eq_lt] at less
  rcases less with lessLanguage | ⟨sameLanguage, lessCategory⟩
  · exact Or.inl (utf8Bytes_lt_of_compare_eq_lt lessLanguage)
  · have sameName : first.language.name = second.language.name :=
      Std.LawfulEqOrd.eq_of_compare sameLanguage
    exact Or.inr
      ⟨congrArg Language.mk sameName,
        utf8Bytes_lt_of_compare_eq_lt lessCategory⟩

namespace Precedes

theorem asymm
    {first second : QueryKey}
    (precedes : first.Precedes second) :
    ¬ second.Precedes first := by
  rintro (lessBack | ⟨sameBack, lessCategoryBack⟩)
  · rcases precedes with less | ⟨same, _⟩
    · exact List.lt_asymm less lessBack
    · rw [same] at lessBack
      exact List.lt_irrefl _ lessBack
  · rcases precedes with less | ⟨_, lessCategory⟩
    · rw [sameBack] at less
      exact List.lt_irrefl _ less
    · exact List.lt_asymm lessCategory lessCategoryBack

theorem ne
    {first second : QueryKey}
    (precedes : first.Precedes second) :
    first ≠ second := by
  rintro rfl
  exact precedes.asymm precedes

end Precedes

end QueryKey

end QueryPack
