import QueryPack.Proofs.QuotedText

namespace QueryPack.Toml

/-!
# The form of a written text

The writer chooses a form by what a text holds. The form that it chooses can
hold the text, so a written value or key is read back as it was, whatever
characters are in it.
-/

namespace QuoteStyle

/-- What a text must not have to be put between the quotes of a form. -/
def Holds (text : List Char) : QuoteStyle → Prop
  | basic => True
  | literal =>
      '\'' ∉ text ∧ ∀ character ∈ text, isControl character = false
  | basicLines => True
  | literalLines =>
      hasRareControl text = false ∧ hasLongRun '\'' text = false

theorem isControl_eq_false_of_oneLine
    {text : List Char}
    (noRareControl : hasRareControl text = false)
    (noLineFeed : '\n' ∉ text) :
    ∀ character ∈ text, isControl character = false := by
  intro character member
  have noneRare := List.any_eq_false.mp noRareControl character member
  have notLineFeed : character ≠ '\n' := fun same => noLineFeed (same ▸ member)
  simpa [notLineFeed] using noneRare

/-- The form chosen for a value can hold it. -/
theorem holds_ofText
    (text : List Char) :
    (ofText text).Holds text := by
  unfold ofText
  dsimp only
  split
  next => split <;> trivial
  next common =>
    have noRareControl : hasRareControl text = false := by
      simpa using common
    split
    next => trivial
    next =>
      split
      next fits =>
        simp only [Bool.and_eq_true, Bool.not_eq_true',
          decide_eq_false_iff_not, decide_eq_true_eq] at fits
        exact ⟨fits.2, isControl_eq_false_of_oneLine noRareControl fits.1⟩
      next =>
        split
        next => trivial
        next =>
          split
          next noLongRun => exact ⟨noRareControl, by simpa using noLongRun⟩
          next => split <;> trivial

/-- The form chosen for a key is on one line and can hold it. -/
theorem ofKey_oneLine
    (key : List Char) :
    (ofKey key = basic ∨ ofKey key = literal) ∧ (ofKey key).Holds key := by
  unfold ofKey
  split
  next => exact ⟨Or.inl rfl, trivial⟩
  next common =>
    have noControl : ∀ character ∈ key, isControl character = false := by
      simpa using common
    split
    next => exact ⟨Or.inl rfl, trivial⟩
    next =>
      split
      next noQuote => exact ⟨Or.inr rfl, noQuote, noControl⟩
      next => exact ⟨Or.inl rfl, trivial⟩

end QuoteStyle

section Quoted

variable {text rest : List Char}

/-- Text on one line does not look like the opening of several lines. -/
theorem write_basic_ne_quotes
    (noQuote : rest.head? ≠ some '"')
    (after : List Char) :
    text.flatMap writeBasicChar ++ '"' :: rest ≠ '"' :: '"' :: after := by
  cases text with
  | nil =>
      rintro begins
      injection begins with _ begins
      exact noQuote (by rw [begins, List.head?_cons])
  | cons character text =>
      rw [List.flatMap_cons, writeBasicChar]
      split
      next => simp
      next notQuote =>
        cases escaped : escape? character with
        | none =>
            simp [notQuote]
        | some escape =>
            obtain ⟨letter, tail, rfl, _, _⟩ :=
              exists_of_escape?_eq_some escaped
            simp

/-- Text on one line does not look like the opening of several lines. -/
theorem write_literal_ne_quotes
    (noQuote : rest.head? ≠ some '\'')
    (noQuoteWithin : '\'' ∉ text)
    (after : List Char) :
    text ++ '\'' :: rest ≠ '\'' :: '\'' :: after := by
  cases text with
  | nil =>
      rintro begins
      injection begins with _ begins
      exact noQuote (by rw [begins, List.head?_cons])
  | cons character text =>
      rintro begins
      injection begins with isQuote _
      exact noQuoteWithin (isQuote ▸ List.mem_cons_self)

/-- The line break after opening quotes is taken away, and no other one. -/
theorem skipFirstBreak_openingBreak
    {written : List Char}
    (plainFront :
      '\n' ∉ text →
      ∀ first, written.head? = some first → isControl first = false) :
    skipFirstBreak (openingBreak text ++ written) = written := by
  unfold openingBreak
  split
  next => rfl
  next oneLine =>
    have noBreak : afterBreak? written = none := by
      apply afterBreak?_eq_none
      · intro begins
        exact absurd (plainFront oneLine _ begins) (by decide)
      · intro begins
        exact absurd (plainFront oneLine _ begins) (by decide)
    rw [List.nil_append, skipFirstBreak, noBreak]
    rfl

/-- Escaped text of one line begins with no control character. -/
theorem isControl_head_writeBasicLines
    (oneLine : '\n' ∉ text)
    {first : Char}
    (begins :
      (writeBasicLines 0 text ++ '"' :: '"' :: '"' :: rest).head? =
        some first) :
    isControl first = false := by
  cases text with
  | nil =>
      injection begins with isQuote
      rw [← isQuote]
      decide
  | cons character text =>
      by_cases isQuote : character = '"'
      · subst isQuote
        injection begins with isQuote
        rw [← isQuote]
        decide
      · have notLineFeed : character ≠ '\n' :=
          fun same => oneLine (same ▸ List.mem_cons_self)
        rw [writeBasicLines] at begins
        · cases escaped : escape? character with
          | none =>
              rw [escaped] at begins
              injection begins with isFirst
              rw [← isFirst]
              exact (of_escape?_eq_none escaped).2
          | some escape =>
              obtain ⟨letter, tail, rfl, _, _⟩ :=
                exists_of_escape?_eq_some escaped
              rw [escaped] at begins
              injection begins with isBackslash
              rw [← isBackslash]
              decide
        · exact notLineFeed
        · exact isQuote

/-- Literal text of one line begins with no control character. -/
theorem isControl_head_literalLines
    (noRareControl : hasRareControl text = false)
    (oneLine : '\n' ∉ text)
    {first : Char}
    (begins : (text ++ '\'' :: '\'' :: '\'' :: rest).head? = some first) :
    isControl first = false := by
  cases text with
  | nil =>
      injection begins with isQuote
      rw [← isQuote]
      decide
  | cons character text =>
      injection begins with isFirst
      rw [← isFirst]
      exact QuoteStyle.isControl_eq_false_of_oneLine noRareControl oneLine
        character
        List.mem_cons_self

/-- Text between quotes is read back, whatever form holds it. -/
theorem readQuoted_write
    {style : QuoteStyle}
    (holds : style.Holds text)
    (noQuote : rest.head? ≠ some '"')
    (noSingleQuote : rest.head? ≠ some '\'') :
    readQuoted (style.write text ++ rest) = some (text, rest) := by
  cases style with
  | basic =>
      have shape :
          QuoteStyle.basic.write text ++ rest =
            '"' :: (text.flatMap writeBasicChar ++ '"' :: rest) := by
        simp [QuoteStyle.write]
      rw [shape, readQuoted]
      · exact readBasic_write text rest
      · exact write_basic_ne_quotes noQuote
  | literal =>
      obtain ⟨noQuoteWithin, plain⟩ := holds
      have shape :
          QuoteStyle.literal.write text ++ rest =
            '\'' :: (text ++ '\'' :: rest) := by
        simp [QuoteStyle.write]
      rw [shape, readQuoted]
      · exact readLiteral_write noQuoteWithin plain rest
      · exact write_literal_ne_quotes noSingleQuote noQuoteWithin
  | basicLines =>
      have shape :
          QuoteStyle.basicLines.write text ++ rest =
            '"' :: '"' :: '"' :: (openingBreak text ++
              (writeBasicLines 0 text ++ '"' :: '"' :: '"' :: rest)) := by
        simp [QuoteStyle.write]
      rw [shape, readQuoted, skipFirstBreak_openingBreak
        (fun oneLine _ => isControl_head_writeBasicLines oneLine)]
      exact readBasicLines_write noQuote 0 text
  | literalLines =>
      obtain ⟨noRareControl, noLongRun⟩ := holds
      have shape :
          QuoteStyle.literalLines.write text ++ rest =
            '\'' :: '\'' :: '\'' :: (openingBreak text ++
              (text ++ '\'' :: '\'' :: '\'' :: rest)) := by
        simp [QuoteStyle.write]
      rw [shape, readQuoted, skipFirstBreak_openingBreak
        (fun oneLine _ => isControl_head_literalLines noRareControl oneLine)]
      exact readLiteralLines_write noRareControl noLongRun noSingleQuote

end Quoted

/-- A written text is read back as a value, up to the end of its line. -/
theorem readValue_writeText
    (depth : Nat)
    (text : String)
    (rest : List Char) :
    readValue depth (writeText text ++ '\n' :: rest) =
      some (.string text, '\n' :: rest) := by
  have read :
      readQuoted (writeText text ++ '\n' :: rest) =
        some (text.toList, '\n' :: rest) :=
    readQuoted_write (QuoteStyle.holds_ofText text.toList) (by simp)
      (by simp)
  have opens :
      ∃ after,
        writeText text ++ '\n' :: rest = '"' :: after ∨
          writeText text ++ '\n' :: rest = '\'' :: after := by
    unfold writeText
    cases QuoteStyle.ofText text.toList with
    | basic => exact ⟨_, Or.inl rfl⟩
    | literal => exact ⟨_, Or.inr rfl⟩
    | basicLines => exact ⟨_, Or.inl rfl⟩
    | literalLines => exact ⟨_, Or.inr rfl⟩
  obtain ⟨after, opens | opens⟩ := opens
  · rw [opens] at read ⊢
    rw [readValue, read]
    simp
  · rw [opens] at read ⊢
    rw [readValue, read]
    simp

section Keys

variable {key rest : List Char}

theorem isBareKey_eq_true_iff :
    isBareKey key = true ↔
      key ≠ [] ∧ ∀ character ∈ key, isBareKeyChar character = true := by
  simp [isBareKey]

/-- A bare word is read as a key, up to what cannot belong to it. -/
theorem readKeyPart_bare
    (isBare : isBareKey key = true)
    (ends : ∀ first, rest.head? = some first → isBareKeyChar first = false) :
    readKeyPart (key ++ rest) = some (String.ofList key, rest) := by
  obtain ⟨nonempty, allBare⟩ := isBareKey_eq_true_iff.mp isBare
  have restTaken : rest.takeWhile isBareKeyChar = [] := by
    cases rest with
    | nil => rfl
    | cons first rest => simp [ends first rfl]
  have restKept : rest.dropWhile isBareKeyChar = rest := by
    cases rest with
    | nil => rfl
    | cons first rest => simp [ends first rfl]
  have taken : (key ++ rest).takeWhile isBareKeyChar = key := by
    rw [List.takeWhile_append_of_pos allBare, restTaken, List.append_nil]
  have kept : (key ++ rest).dropWhile isBareKeyChar = rest := by
    rw [List.dropWhile_append_of_pos allBare, restKept]
  have notQuoted :
      ∀ quote after,
        isBareKeyChar quote = false → key ++ rest ≠ quote :: after := by
    intro quote after notBare begins
    obtain ⟨first, later, rfl⟩ := List.exists_cons_of_ne_nil nonempty
    injection begins with isQuote
    rw [← isQuote, allBare first List.mem_cons_self] at notBare
    cases notBare
  rw [readKeyPart]
  · rw [taken, kept, List.isEmpty_eq_false_iff.mpr nonempty,
      if_neg Bool.false_ne_true]
  · exact fun after => notQuoted '"' after (by decide)
  · exact fun after => notQuoted '\'' after (by decide)

/-- A written key is read back, up to what is no part of a bare key. -/
theorem readKeyPart_writeKey
    (key : String)
    (ends : ∀ first, rest.head? = some first → isBareKeyChar first = false) :
    readKeyPart (writeKey key ++ rest) = some (key, rest) := by
  unfold writeKey
  split
  next isBare =>
    rw [readKeyPart_bare isBare ends, String.ofList_toList]
  next =>
    obtain ⟨isBasic | isLiteral, holds⟩ :=
      QuoteStyle.ofKey_oneLine key.toList
    · have shape :
          QuoteStyle.basic.write key.toList ++ rest =
            '"' :: (key.toList.flatMap writeBasicChar ++ '"' :: rest) := by
        simp [QuoteStyle.write]
      rw [isBasic, shape, readKeyPart, readBasic_write]
      simp
    · rw [isLiteral] at holds
      have shape :
          QuoteStyle.literal.write key.toList ++ rest =
            '\'' :: (key.toList ++ '\'' :: rest) := by
        simp [QuoteStyle.write]
      rw [isLiteral, shape, readKeyPart,
        readLiteral_write holds.1 holds.2]
      simp

/-- A written key begins with a quote or with a character of a bare key. -/
theorem exists_head_writeKey
    (key : String) :
    ∃ first later,
      writeKey key = first :: later ∧
        (isBareKeyChar first = true ∨ first = '"' ∨ first = '\'') := by
  unfold writeKey
  split
  next isBare =>
    obtain ⟨nonempty, allBare⟩ := isBareKey_eq_true_iff.mp isBare
    obtain ⟨first, later, shape⟩ := List.exists_cons_of_ne_nil nonempty
    refine ⟨first, later, shape, Or.inl (allBare first ?_)⟩
    rw [shape]
    exact List.mem_cons_self
  next =>
    cases QuoteStyle.ofKey key.toList with
    | basic => exact ⟨'"', _, rfl, Or.inr (Or.inl rfl)⟩
    | literal => exact ⟨'\'', _, rfl, Or.inr (Or.inr rfl)⟩
    | basicLines => exact ⟨'"', _, rfl, Or.inr (Or.inl rfl)⟩
    | literalLines => exact ⟨'\'', _, rfl, Or.inr (Or.inr rfl)⟩

end Keys

end QueryPack.Toml
