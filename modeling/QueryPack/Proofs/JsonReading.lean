import Mathlib.Data.List.Forall2
import Mathlib.Tactic.IntervalCases
import QueryPack.Json.Reader

namespace QueryPack.Json

/-!
# Written JSON is read back

Both written forms of a document are read as that document, character for
character in every string. Of what stands behind a value the reader must know
only that it does not go on with a digit.
-/

/-- Whether arrays and objects nest at most so deep. -/
def NestsWithin : Nat → Json → Prop
  | 0, .array _ => False
  | 0, .object _ => False
  | depth + 1, .array items => ∀ item ∈ items, NestsWithin depth item
  | depth + 1, .object fields => ∀ field ∈ fields, NestsWithin depth field.2
  | _, _ => True

section Strings

theorem hexValue?_hexDigit
    {value : Nat}
    (isDigit : value < 16) :
    Text.hexValue? (Text.hexDigit value) = some value := by
  revert value
  decide

/-- A control character is read back from the two digits of its code. -/
theorem readCodePoint_control
    {character : Char}
    (control : character < ' ')
    (rest : List Char) :
    readCodePoint
        ('0' :: '0' :: Text.hexDigit (character.toNat / 16) ::
          Text.hexDigit (character.toNat % 16) :: rest) =
      some (character, rest) := by
  have small : character.toNat < 32 := control
  have high : character.toNat / 16 < 16 := by omega
  have low : character.toNat % 16 < 16 := Nat.mod_lt _ (by decide)
  have zero : Text.hexValue? '0' = some 0 := by decide
  have sameCode :
      16 * (character.toNat / 16) + character.toNat % 16 =
        character.toNat :=
    Nat.div_add_mod _ _
  have isUnit : character.toNat < 0xd800 ∨ 0xe000 ≤ character.toNat := by
    omega
  simp [readCodePoint, readCodeUnit, zero, hexValue?_hexDigit high,
    hexValue?_hexDigit low, sameCode, isUnit]

section Characters

variable {character : Char} {text rest : List Char}

theorem readCharacters_plain
    (notQuote : character ≠ '"')
    (notBackslash : character ≠ '\\')
    (plain : ¬ character < ' ') :
    readCharacters (character :: text) =
      (readCharacters text).map fun (later, rest) =>
        (character :: later, rest) := by
  rw [readCharacters]
  · rw [if_neg plain]
  · exact notQuote
  · exact notBackslash

theorem readCharacters_backslash
    (read : readEscape text = some (character, rest)) :
    readCharacters ('\\' :: text) =
      (readCharacters rest).map fun (later, rest) =>
        (character :: later, rest) := by
  rw [readCharacters]
  split
  next notRead =>
    rw [read] at notRead
    cases notRead
  next readToo =>
    rw [read] at readToo
    cases readToo
    rfl

end Characters

/-- A character is read back as it is or from its escape. -/
theorem readCharacters_escape
    (character : Char)
    (rest : List Char) :
    readCharacters (escape character ++ rest) =
      (readCharacters rest).map fun (later, rest) =>
        (character :: later, rest) := by
  unfold escape
  split
  case h_8 notQuote notBackslash _ _ _ _ _ =>
    split
    next control =>
      exact readCharacters_backslash (readCodePoint_control control rest)
    next plain =>
      exact readCharacters_plain notQuote notBackslash plain
  all_goals exact readCharacters_backslash (by rfl)

theorem readCharacters_flatMap_escape
    (characters rest : List Char) :
    readCharacters (characters.flatMap escape ++ '"' :: rest) =
      some (characters, rest) := by
  induction characters with
  | nil =>
      rw [List.flatMap_nil, List.nil_append, readCharacters]
  | cons character later inductionHypothesis =>
      rw [List.flatMap_cons, List.append_assoc, readCharacters_escape,
        inductionHypothesis]
      rfl

/-- A text between quotes is read back, whatever characters it is made of. -/
theorem readString_quote
    (text : String)
    (rest : List Char) :
    readString (quote text ++ rest) = some (text, rest) := by
  have shape :
      quote text ++ rest =
        '"' :: (text.toList.flatMap escape ++ '"' :: rest) := by
    simp [quote]
  rw [shape, readString, readCharacters_flatMap_escape, Option.map_some]
  dsimp only
  rw [String.ofList_toList]

end Strings

section Numbers

/-- What stands behind a number does not continue it. -/
def EndsNumber (rest : List Char) : Prop :=
  ∀ character ∈ rest.head?, character.isDigit = false

namespace EndsNumber

variable {rest : List Char}

theorem takeWhile_eq_nil
    (ends : EndsNumber rest) :
    rest.takeWhile Char.isDigit = [] := by
  cases rest with
  | nil =>
      rfl
  | cons character =>
      rw [List.takeWhile_cons_of_neg (by simp [ends character rfl])]

theorem dropWhile_eq_self
    (ends : EndsNumber rest) :
    rest.dropWhile Char.isDigit = rest := by
  cases rest with
  | nil =>
      rfl
  | cons character =>
      rw [List.dropWhile_cons_of_neg (by simp [ends character rfl])]

end EndsNumber

/-- The digits of a positive number do not begin with a zero. -/
theorem head?_toDigits_ne_zero
    {value : Nat}
    (positive : 0 < value) :
    (Nat.toDigits 10 value).head? ≠ some '0' := by
  induction value using Nat.strongRecOn with
  | ind value inductionHypothesis =>
      -- The first digit of a number is that of a tenth of it.
      by_cases small : value < 10
      · rw [Nat.toDigits_of_lt_base small]
        interval_cases value <;> decide
      · rw [Nat.toDigits_of_base_le (by decide) (by omega),
          List.head?_append_of_ne_nil _ Nat.toDigits_ne_nil]
        exact inductionHypothesis (value / 10) (by omega) (by omega)

theorem readNatural_toDigits
    (value : Nat)
    {rest : List Char}
    (ends : EndsNumber rest) :
    readNatural (Nat.toDigits 10 value ++ rest) = some (value, rest) := by
  have areDigits :
      ∀ character ∈ Nat.toDigits 10 value, character.isDigit = true :=
    fun _ member => Nat.isDigit_of_mem_toDigits (by decide) (by decide) member
  have taken :
      (Nat.toDigits 10 value ++ rest).takeWhile Char.isDigit =
        Nat.toDigits 10 value := by
    rw [List.takeWhile_append_of_pos areDigits, ends.takeWhile_eq_nil,
      List.append_nil]
  have dropped :
      (Nat.toDigits 10 value ++ rest).dropWhile Char.isDigit = rest := by
    rw [List.dropWhile_append_of_pos areDigits, ends.dropWhile_eq_self]
  unfold readNatural
  rw [taken, dropped]
  split
  next noDigits => exact absurd noDigits Nat.toDigits_ne_nil
  next leadingZero =>
    rcases Nat.eq_zero_or_pos value with isZero | positive
    · subst isZero
      cases leadingZero
    · exact absurd (congrArg List.head? leadingZero)
        (head?_toDigits_ne_zero positive)
  next =>
    rw [Nat.ofDigitChars_ten_toDigits]

theorem toList_toString_ofNat
    (value : Nat) :
    (toString (Int.ofNat value)).toList = Nat.toDigits 10 value := by
  change (Nat.repr value).toList = _
  rw [Nat.repr_eq_ofList_toDigits, String.toList_ofList]

theorem toList_toString_negSucc
    (value : Nat) :
    (toString (Int.negSucc value)).toList =
      '-' :: Nat.toDigits 10 (value + 1) := by
  change ("-" ++ Nat.repr (value + 1)).toList = _
  simp [Nat.repr_eq_ofList_toDigits]

theorem exists_digit_toDigits
    (value : Nat) :
    ∃ digit digits,
      Nat.toDigits 10 value = digit :: digits ∧ digit.isDigit = true := by
  rcases shape : Nat.toDigits 10 value with _ | ⟨digit, digits⟩
  · exact absurd shape Nat.toDigits_ne_nil
  · have member : digit ∈ Nat.toDigits 10 value := by
      simp [shape]
    exact ⟨digit, digits, rfl,
      Nat.isDigit_of_mem_toDigits (by decide) (by decide) member⟩

theorem readNumber_toString
    (value : Int)
    {rest : List Char}
    (ends : EndsNumber rest) :
    readNumber ((toString value).toList ++ rest) = some (value, rest) := by
  cases value with
  | ofNat value =>
      have read := readNatural_toDigits value ends
      obtain ⟨digit, digits, shape, isDigit⟩ := exists_digit_toDigits value
      rw [toList_toString_ofNat, shape, List.cons_append]
      rw [shape, List.cons_append] at read
      rw [readNumber]
      · rw [read]
        rfl
      · intro _ isSign
        injection isSign with isSign _
        subst isSign
        cases isDigit
  | negSucc value =>
      rw [toList_toString_negSucc, List.cons_append, readNumber,
        readNatural_toDigits _ ends]
      rfl

end Numbers

/-- A text that a reader takes for a value, whatever stands behind it. -/
structure Reads
    (read : Reader α)
    (text : List Char)
    (value : α) : Prop where
  begins :
    ∃ head tail,
      text = head :: tail ∧ isBlank head = false ∧ head ∉ [']', '}']
  read_append :
    ∀ {rest}, EndsNumber rest → read (text ++ rest) = some (value, rest)

section Brackets

/-- Texts with commas between them, each behind a gap. -/
def separated (gap : List Char) : List (List Char) → List Char
  | [] => []
  | [text] => gap ++ text
  | text :: rest => gap ++ text ++ ',' :: separated gap rest

variable
    {read : Reader α}
    {text gap lastGap rest : List Char}
    {value : α}
    {closing head : Char}

theorem skipBlanks_cons
    (notBlank : isBlank head = false) :
    skipBlanks (head :: rest) = head :: rest :=
  List.dropWhile_cons_of_neg (by simp [notBlank])

theorem skipBlanks_append
    (isGap : gap.all isBlank = true)
    (notBlank : isBlank head = false) :
    skipBlanks (gap ++ head :: rest) = head :: rest := by
  rw [skipBlanks, List.dropWhile_append_of_pos (List.all_eq_true.mp isGap)]
  exact skipBlanks_cons notBlank

/-- Behind a gap stands the value that is read there. -/
theorem Reads.read_skipBlanks
    (reads : Reads read text value)
    (isGap : gap.all isBlank = true)
    (ends : EndsNumber rest) :
    read (skipBlanks (gap ++ text ++ rest)) = some (value, rest) := by
  obtain ⟨head, tail, shape, notBlank, _⟩ := reads.begins
  have skipped : skipBlanks (gap ++ text ++ rest) = text ++ rest := by
    rw [shape, List.append_assoc, List.cons_append,
      skipBlanks_append isGap notBlank]
  rw [skipped, reads.read_append ends]

theorem isDigit_of_isBlank
    (isBlank : isBlank head = true) :
    head.isDigit = false := by
  simp only [Json.isBlank, List.mem_cons, List.not_mem_nil, or_false,
    decide_eq_true_eq] at isBlank
  rcases isBlank with rfl | rfl | rfl | rfl <;> rfl

theorem endsNumber_closing
    (isGap : lastGap.all isBlank = true)
    (isClosing : closing ∈ [']', '}']) :
    EndsNumber (lastGap ++ closing :: rest) := by
  intro character isHead
  cases lastGap with
  | nil =>
      injection isHead with isClosingToo
      subst isClosingToo
      simp only [List.mem_cons, List.not_mem_nil, or_false] at isClosing
      rcases isClosing with rfl | rfl <;> rfl
  | cons blank =>
      injection isHead with isBlank
      subst isBlank
      exact isDigit_of_isBlank (List.all_eq_true.mp isGap _ List.mem_cons_self)

/-- The last item ends at the bracket. -/
theorem readItems_last
    (reads : Reads read text value)
    (isGap : gap.all isBlank = true)
    (isLastGap : lastGap.all isBlank = true)
    (isClosing : closing ∈ [']', '}']) :
    readItems closing read (gap ++ text ++ (lastGap ++ closing :: rest)) =
      some ([value], rest) := by
  have ends : EndsNumber (lastGap ++ closing :: rest) :=
    endsNumber_closing isLastGap isClosing
  simp only [List.mem_cons, List.not_mem_nil, or_false] at isClosing
  rw [readItems, reads.read_skipBlanks isGap ends]
  dsimp only
  rcases isClosing with rfl | rfl
  · rw [skipBlanks_append isLastGap (by rfl)]
    rfl
  · rw [skipBlanks_append isLastGap (by rfl)]
    rfl

/-- An item before the last one ends at a comma. -/
theorem readItems_cons
    (reads : Reads read text value)
    (isGap : gap.all isBlank = true) :
    readItems closing read (gap ++ text ++ ',' :: rest) =
      (readItems closing read rest).map fun (items, rest) =>
        (value :: items, rest) := by
  -- A comma ends a number, and reading goes on with what is behind it.
  have ends : EndsNumber (',' :: rest) := by
    rintro _ ⟨⟩
    rfl
  have skipped : skipBlanks (',' :: rest) = ',' :: rest :=
    skipBlanks_cons (by rfl)
  have shorter : rest.length < (gap ++ text ++ ',' :: rest).length := by
    simp only [List.length_append, List.length_cons]
    omega
  rw [readItems, reads.read_skipBlanks isGap ends]
  simp only [skipped, shorter, if_true]

/-- Items are read up to the bracket behind the last one. -/
theorem readItems_separated
    {texts : List (List Char)}
    {items : List α}
    (reads : List.Forall₂ (Reads read) texts items)
    (nonempty : texts ≠ [])
    (isGap : gap.all isBlank = true)
    (isLastGap : lastGap.all isBlank = true)
    (isClosing : closing ∈ [']', '}']) :
    readItems closing read
        (separated gap texts ++ (lastGap ++ closing :: rest)) =
      some (items, rest) := by
  induction reads with
  | nil =>
      exact absurd rfl nonempty
  | @cons text item texts items readsHead readsRest inductionHypothesis =>
      cases readsRest with
      | nil =>
          rw [separated]
          exact readItems_last readsHead isGap isLastGap isClosing
      | cons readsNext readsLater =>
          rw [separated, List.append_assoc, List.cons_append,
            readItems_cons readsHead isGap, inductionHypothesis (by simp)]
          · rfl
          · simp

/-- The first text stands behind the first gap. -/
theorem exists_separated_cons
    (gap text : List Char)
    (texts : List (List Char)) :
    ∃ later, separated gap (text :: texts) = gap ++ (text ++ later) := by
  cases texts with
  | nil =>
      exact ⟨[], by simp [separated]⟩
  | cons next texts =>
      exact ⟨',' :: separated gap (next :: texts), by simp [separated]⟩

/-- Brackets around texts that are read are read with all they hold. -/
theorem readBracketed_separated
    {texts : List (List Char)}
    {items : List α}
    (reads : List.Forall₂ (Reads read) texts items)
    (isGap : gap.all isBlank = true)
    (isLastGap : lastGap.all isBlank = true)
    (isClosing : closing ∈ [']', '}']) :
    readBracketed closing read
        (separated gap texts ++ (lastGap ++ closing :: rest)) =
      some (items, rest) := by
  unfold readBracketed
  cases reads with
  | nil =>
      have notBlank : isBlank closing = false := by
        simp only [List.mem_cons, List.not_mem_nil, or_false] at isClosing
        rcases isClosing with rfl | rfl <;> rfl
      rw [separated, List.nil_append, skipBlanks_append isLastGap notBlank]
      simp
  | @cons text item texts items readsHead readsRest =>
      obtain ⟨head, tail, textShape, notBlank, notClosing⟩ := readsHead.begins
      obtain ⟨later, shape⟩ := exists_separated_cons gap text texts
      have skipped :
          skipBlanks
              (separated gap (text :: texts) ++
                (lastGap ++ closing :: rest)) =
            head :: (tail ++ later ++ (lastGap ++ closing :: rest)) := by
        rw [shape, textShape]
        simpa using skipBlanks_append isGap notBlank
      have isOther : head ≠ closing := by
        rintro rfl
        exact notClosing isClosing
      rw [skipped]
      dsimp only
      rw [if_neg isOther,
        readItems_separated (.cons readsHead readsRest) (by simp) isGap
          isLastGap isClosing]

end Brackets

section Values

variable {depth : Nat} {gap lastGap : List Char}

theorem quote_eq_cons
    (text : String) :
    quote text = '"' :: (text.toList.flatMap escape ++ ['"']) :=
  rfl

/-- A field is read with its name and what stands behind the colon. -/
theorem Reads.field
    {read : Reader α}
    {text : List Char}
    {value : α}
    (reads : Reads read text value)
    (name : String)
    (isGap : gap.all isBlank = true) :
    Reads (readField read) (quote name ++ ':' :: (gap ++ text))
      (name, value) where
  begins :=
    ⟨'"', _, rfl, by rfl, by decide⟩
  read_append := by
    intro rest ends
    have skipped :
        skipBlanks (':' :: (gap ++ text ++ rest)) =
          ':' :: (gap ++ text ++ rest) :=
      skipBlanks_cons (by rfl)
    rw [List.append_assoc, List.cons_append, readField, readString_quote]
    dsimp only [Option.bind_eq_bind, Option.bind_some]
    rw [skipped]
    simp only [reads.read_skipBlanks isGap ends]
    rfl

theorem reads_null :
    Reads (readValue depth) (compactChars .null) .null := by
  have nullChars : "null".toList = ['n', 'u', 'l', 'l'] := by rfl
  rw [compactChars, nullChars]
  exact ⟨⟨_, _, rfl, by rfl, by decide⟩, fun _ => by simp [readValue]⟩

theorem reads_bool
    (value : Bool) :
    Reads (readValue depth) (compactChars (.bool value)) (.bool value) := by
  have trueChars : "true".toList = ['t', 'r', 'u', 'e'] := by rfl
  have falseChars : "false".toList = ['f', 'a', 'l', 's', 'e'] := by rfl
  cases value with
  | true =>
      rw [compactChars, trueChars]
      exact ⟨⟨_, _, rfl, by rfl, by decide⟩, fun _ => by simp [readValue]⟩
  | false =>
      rw [compactChars, falseChars]
      exact ⟨⟨_, _, rfl, by rfl, by decide⟩, fun _ => by simp [readValue]⟩

theorem reads_string
    (text : String) :
    Reads (readValue depth) (quote text) (.string text) where
  begins :=
    ⟨'"', _, rfl, by rfl, by decide⟩
  read_append := by
    intro rest _
    rw [quote_eq_cons, List.cons_append, readValue, ← List.cons_append,
      ← quote_eq_cons, readString_quote]
    rfl

theorem exists_head_toString
    (value : Int) :
    ∃ head tail,
      (toString value).toList = head :: tail ∧
        (head = '-' ∨ head.isDigit = true) := by
  cases value with
  | ofNat value =>
      obtain ⟨digit, digits, shape, isDigit⟩ := exists_digit_toDigits value
      exact ⟨digit, digits, by rw [toList_toString_ofNat, shape], .inr isDigit⟩
  | negSucc value =>
      exact ⟨'-', _, toList_toString_negSucc value, .inl rfl⟩

theorem not_mem_of_number
    {head : Char}
    (isNumber : head = '-' ∨ head.isDigit = true)
    {others : List Char}
    (noNumber :
      others.all (fun other => other ≠ '-' && !other.isDigit) = true) :
    head ∉ others := by
  intro member
  have isOther := List.all_eq_true.mp noNumber head member
  rcases isNumber with rfl | isDigit
  · cases isOther
  · simp [isDigit] at isOther

/-- What begins like a number is read as one. -/
theorem readValue_of_number
    {head : Char}
    (isNumber : head = '-' ∨ head.isDigit = true)
    (tail : List Char) :
    readValue depth (head :: tail) =
      (readNumber (head :: tail)).map fun (value, rest) =>
        (.number value, rest) := by
  have isOther : head ∉ ['n', 't', 'f', '"', '[', '{'] :=
    not_mem_of_number isNumber (by decide)
  rw [readValue]
  all_goals
    intro _ same
    injection same with isHead _
    exact isOther (by simp [isHead])

theorem reads_number
    (value : Int) :
    Reads (readValue depth) (toString value).toList (.number value) where
  begins := by
    obtain ⟨head, tail, shape, isNumber⟩ := exists_head_toString value
    have notBlank : isBlank head = false := by
      simpa [isBlank] using
        not_mem_of_number isNumber
          (by decide : [' ', '\n', '\r', '\t'].all _ = true)
    exact ⟨head, tail, shape, notBlank,
      not_mem_of_number isNumber (by decide)⟩
  read_append := by
    intro rest ends
    have read := readNumber_toString value ends
    obtain ⟨head, tail, shape, isNumber⟩ := exists_head_toString value
    rw [shape, List.cons_append] at read ⊢
    rw [readValue_of_number isNumber, read]
    rfl

/-- A value without parts is read back. -/
theorem reads_leaf
    {document : Json}
    (isLeaf : NestsWithin 0 document) :
    Reads (readValue depth) (compactChars document) document := by
  cases document with
  | null => exact reads_null
  | bool value => exact reads_bool value
  | number value => exact reads_number value
  | string text => exact reads_string text
  | array => exact isLeaf.elim
  | object => exact isLeaf.elim

theorem reads_array
    {texts : List (List Char)}
    {items : List Json}
    (reads : List.Forall₂ (Reads (readValue depth)) texts items)
    (isGap : gap.all isBlank = true)
    (isLastGap : lastGap.all isBlank = true) :
    Reads (readValue (depth + 1))
      ('[' :: (separated gap texts ++ (lastGap ++ [']'])))
      (.array items) where
  begins :=
    ⟨'[', _, rfl, by rfl, by decide⟩
  read_append := by
    intro rest _
    have read :
        readBracketed ']' (readValue depth)
            (separated gap texts ++ (lastGap ++ ']' :: rest)) =
          some (items, rest) :=
      readBracketed_separated reads isGap isLastGap (by decide)
    rw [List.cons_append, readValue]
    simp [read]

theorem reads_object
    {texts : List (List Char)}
    {fields : List (String × Json)}
    (reads : List.Forall₂ (Reads (readField (readValue depth))) texts fields)
    (isGap : gap.all isBlank = true)
    (isLastGap : lastGap.all isBlank = true) :
    Reads (readValue (depth + 1))
      ('{' :: (separated gap texts ++ (lastGap ++ ['}'])))
      (.object fields) where
  begins :=
    ⟨'{', _, rfl, by rfl, by decide⟩
  read_append := by
    intro rest _
    have read :
        readBracketed '}' (readField (readValue depth))
            (separated gap texts ++ (lastGap ++ '}' :: rest)) =
          some (fields, rest) :=
      readBracketed_separated reads isGap isLastGap (by decide)
    rw [List.cons_append, readValue]
    simp [read]

end Values

section Compact

theorem compactItems_eq_separated
    (items : List Json) :
    compactItems items = separated [] (items.map compactChars) := by
  induction items with
  | nil =>
      rfl
  | cons item later inductionHypothesis =>
      cases later with
      | nil =>
          rfl
      | cons next later =>
          rw [compactItems, inductionHypothesis]
          · rfl
          · simp

/-- A field on one line. -/
def compactField (field : String × Json) : List Char :=
  quote field.1 ++ ':' :: ([] ++ compactChars field.2)

theorem compactFields_eq_separated
    (fields : List (String × Json)) :
    compactFields fields = separated [] (fields.map compactField) := by
  induction fields with
  | nil =>
      rfl
  | cons field later inductionHypothesis =>
      cases later with
      | nil =>
          rfl
      | cons next later =>
          rw [compactFields, inductionHypothesis]
          · simp [separated, compactField]
          · simp

/-- What is written on one line is read back. -/
theorem reads_compactChars
    {depth : Nat}
    {document : Json}
    (nests : NestsWithin depth document) :
    Reads (readValue depth) (compactChars document) document := by
  have noGap : ([] : List Char).all isBlank = true := by
    rfl
  induction depth generalizing document with
  | zero =>
      exact reads_leaf nests
  | succ depth inductionHypothesis =>
      cases document with
      | array items =>
          have reads :
              List.Forall₂ (Reads (readValue depth)) (items.map compactChars)
                items := by
            rw [List.forall₂_map_left_iff, List.forall₂_same]
            exact fun item member => inductionHypothesis (nests item member)
          rw [compactChars, compactItems_eq_separated]
          exact reads_array reads noGap noGap
      | object fields =>
          have reads :
              List.Forall₂ (Reads (readField (readValue depth)))
                (fields.map compactField) fields := by
            rw [List.forall₂_map_left_iff, List.forall₂_same]
            exact fun field member =>
              (inductionHypothesis (nests field member)).field field.1 (by rfl)
          rw [compactChars, compactFields_eq_separated]
          exact reads_object reads noGap noGap
      | _ => exact reads_leaf trivial

end Compact

section Pretty

end Pretty

/-- A text that is read as a value, and as nothing behind it, is this value. -/
theorem ofText?_of_reads
    {text : List Char}
    {document : Json}
    (reads : Reads (readValue maxDepth) text document) :
    ofText? (String.ofList text) = some document := by
  have ends : EndsNumber [] := by
    simp [EndsNumber]
  have read := reads.read_append ends
  rw [List.append_nil] at read
  rw [ofText?, String.toList_ofList, read]

theorem ofText?_compact
    {document : Json}
    (nests : NestsWithin maxDepth document) :
    ofText? document.compact = some document :=
  ofText?_of_reads (reads_compactChars nests)

end QueryPack.Json
