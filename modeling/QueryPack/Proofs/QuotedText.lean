import Mathlib.Tactic.IntervalCases
import QueryPack.Toml.QuoteStyle

namespace QueryPack.Toml

/-!
# Quoted text is read back

The forms with escapes can be written for any text, the literal ones for text
without control characters, and a literal text on several lines has no long runs
of quotes. Each of the four is read back as the text it was written for. The
reader meets only escapes it knows and never three quotes in a row before the
end; one or two quotes before the closing ones it takes for the last of five.
-/

/-- Put a character in front of what a reader has read. -/
def behind (character : Char) (read : List Char × List Char) :
    List Char × List Char :=
  (character :: read.1, read.2)

section Escapes

theorem hexValue?_upperHexDigit
    {value : Nat}
    (isDigit : value < 16) :
    Text.hexValue? (Text.upperHexDigit value) = some value := by
  revert value
  decide

/-- The code of a character below 256 is read back from two digits. -/
theorem ofHexDigits?_code
    {character : Char}
    (small : character.toNat < 256) :
    ofHexDigits?
        ['0', '0', Text.upperHexDigit (character.toNat / 16),
          Text.upperHexDigit (character.toNat % 16)] =
      some character := by
  have high : character.toNat / 16 < 16 := by omega
  have low : character.toNat % 16 < 16 := Nat.mod_lt _ (by decide)
  have zero : Text.hexValue? '0' = some 0 := by decide
  have sameCode :
      16 * (character.toNat / 16) + character.toNat % 16 =
        character.toNat :=
    Nat.div_add_mod _ _
  have isValid : character.toNat.isValidChar := character.valid
  simp [ofHexDigits?, zero, hexValue?_upperHexDigit high,
    hexValue?_upperHexDigit low, sameCode, isValid]

theorem toNat_lt_of_isControl
    {character : Char}
    (control : isControl character = true) :
    character.toNat < 256 := by
  simp only [isControl, Bool.or_eq_true, Bool.and_eq_true,
    decide_eq_true_eq] at control
  rcases control with ⟨below, _⟩ | isDelete
  · have belowBlank : character.toNat < ' '.toNat := below
    have blank : ' '.toNat = 32 := by decide
    omega
  · rw [isDelete]
    decide

/--
An escape is a backslash and what the reader of escapes takes for the
character. What follows the backslash is neither a blank nor a line break.
-/
theorem exists_of_escape?_eq_some
    {character : Char}
    {escape : List Char}
    (escaped : escape? character = some escape) :
    ∃ letter tail,
      escape = '\\' :: letter :: tail ∧
        letter ∉ [' ', '\t', '\n', '\r'] ∧
        ∀ rest,
          readEscape (letter :: tail ++ rest) = some (character, rest) := by
  unfold escape? at escaped
  split at escaped
  case h_7 =>
    split at escaped
    next control =>
      injection escaped with escapeShape
      refine ⟨_, _, escapeShape.symm, by decide, fun rest => ?_⟩
      simp [readEscape, ofHexDigits?_code (toNat_lt_of_isControl control)]
    next => cases escaped
  all_goals
    injection escaped with escapeShape
    exact ⟨_, _, escapeShape.symm, by decide, fun rest => rfl⟩

/-- What needs no escape is neither a backslash nor a control character. -/
theorem of_escape?_eq_none
    {character : Char}
    (unescaped : escape? character = none) :
    character ≠ '\\' ∧ isControl character = false := by
  unfold escape? at unescaped
  split at unescaped
  case h_7 notBackslash =>
    split at unescaped
    next => cases unescaped
    next plain => exact ⟨notBackslash, by simpa using plain⟩
  all_goals cases unescaped

end Escapes

/-- A line break begins with a line feed or a carriage return. -/
theorem afterBreak?_eq_none
    {text : List Char}
    (noLineFeed : text.head? ≠ some '\n')
    (noReturn : text.head? ≠ some '\r') :
    afterBreak? text = none := by
  unfold afterBreak?
  split
  next => simp at noLineFeed
  next => simp at noReturn
  next => rfl

section OneLine

variable {character : Char} {rest after : List Char}

theorem readBasic_cons
    (notQuote : character ≠ '"')
    (notBackslash : character ≠ '\\')
    (plain : isControl character = false) :
    readBasic (character :: rest) =
      (readBasic rest).map (behind character) := by
  rw [readBasic]
  · rw [plain, if_neg Bool.false_ne_true]
    rfl
  · exact notQuote
  · exact notBackslash

theorem readBasic_escape
    (read : readEscape rest = some (character, after)) :
    readBasic ('\\' :: rest) = (readBasic after).map (behind character) := by
  rw [readBasic]
  split
  next notRead =>
    rw [read] at notRead
    cases notRead
  next readToo =>
    rw [read] at readToo
    cases readToo
    rfl

theorem readBasic_writeBasicChar
    (character : Char)
    (rest : List Char) :
    readBasic (writeBasicChar character ++ rest) =
      (readBasic rest).map (behind character) := by
  unfold writeBasicChar
  split
  next isQuote =>
    rw [isQuote]
    exact readBasic_escape rfl
  next notQuote =>
    cases escaped : escape? character with
    | none =>
        obtain ⟨notBackslash, plain⟩ := of_escape?_eq_none escaped
        exact readBasic_cons notQuote notBackslash plain
    | some escape =>
        obtain ⟨letter, tail, rfl, _, read⟩ :=
          exists_of_escape?_eq_some escaped
        exact readBasic_escape (read rest)

/-- Any text is read back from one line with escapes. -/
theorem readBasic_write
    (text rest : List Char) :
    readBasic (text.flatMap writeBasicChar ++ '"' :: rest) =
      some (text, rest) := by
  induction text with
  | nil =>
      rw [List.flatMap_nil, List.nil_append, readBasic]
  | cons character text inductionHypothesis =>
      rw [List.flatMap_cons, List.append_assoc, readBasic_writeBasicChar,
        inductionHypothesis]
      rfl

/-- Text without single quotes and control characters is read back as it is. -/
theorem readLiteral_write
    {text : List Char}
    (noQuote : '\'' ∉ text)
    (plain : ∀ character ∈ text, isControl character = false)
    (rest : List Char) :
    readLiteral (text ++ '\'' :: rest) = some (text, rest) := by
  induction text with
  | nil =>
      rfl
  | cons character text inductionHypothesis =>
      obtain ⟨notQuote, noQuoteLater⟩ :=
        not_or.mp (mt List.mem_cons.mpr noQuote)
      have readLater :=
        inductionHypothesis noQuoteLater
          (fun later member => plain later (List.mem_cons_of_mem _ member))
      rw [List.cons_append, readLiteral]
      · rw [plain character List.mem_cons_self, if_neg Bool.false_ne_true,
          readLater]
        rfl
      · exact fun isQuote => notQuote isQuote.symm

end OneLine

/-- Up to two quotes before the closing ones belong to the text. -/
theorem readLastQuotes_replicate
    {quote : Char}
    {rest : List Char}
    (noQuote : rest.head? ≠ some quote)
    {count : Nat}
    (atMostTwo : count ≤ 2) :
    readLastQuotes quote (List.replicate count quote ++ rest) =
      (List.replicate count quote, rest) := by
  cases rest with
  | nil =>
      interval_cases count <;> simp [readLastQuotes]
  | cons first rest =>
      have notQuote : first ≠ quote := by simpa using noQuote
      interval_cases count
      · cases rest <;> simp [readLastQuotes, notQuote]
      · simp [readLastQuotes, notQuote]
      · simp [readLastQuotes]

/-- Quotes before three others can be taken for quotes behind them. -/
theorem replicate_append_quotes
    {quote : Char}
    {rest : List Char}
    {count : Nat}
    (atMostTwo : count ≤ 2) :
    List.replicate count quote ++ quote :: quote :: quote :: rest =
      quote :: quote :: quote :: (List.replicate count quote ++ rest) := by
  interval_cases count <;> rfl

/-- A character that may stand in text over several lines. -/
def IsPlainInLines (character : Char) : Prop :=
  isControl character = false ∨ character = '\n'

theorem IsPlainInLines.not_refused
    {character : Char}
    (plain : IsPlainInLines character) :
    ¬ (isControl character && character ≠ '\n') = true := by
  rcases plain with plain | rfl
  · simp [plain]
  · simp

section EscapedLines

variable {character : Char} {rest after : List Char}

/-- A quote belongs to the text unless two more follow it. -/
theorem readBasicLines_cons
    (notClosing :
      character = '"' → ∀ after, rest ≠ '"' :: '"' :: after)
    (notBackslash : character ≠ '\\')
    (notReturn : character ≠ '\r')
    (plain : IsPlainInLines character) :
    readBasicLines (character :: rest) =
      (readBasicLines rest).map (behind character) := by
  rw [readBasicLines]
  · rw [if_neg plain.not_refused]
    rfl
  · exact fun after isQuote => notClosing isQuote after
  · exact notBackslash
  · exact fun _ isReturn _ => notReturn isReturn

theorem readBasicLines_escape
    {letter : Char}
    (notSpace : letter ∉ [' ', '\t', '\n', '\r'])
    (read : readEscape (letter :: rest) = some (character, after)) :
    readBasicLines ('\\' :: letter :: rest) =
      (readBasicLines after).map (behind character) := by
  simp only [List.mem_cons, List.not_mem_nil, or_false, not_or] at notSpace
  obtain ⟨notBlank, notTab, notLineFeed, notReturn⟩ := notSpace
  have noBreak : afterBreak? (skipBlanks (letter :: rest)) = none := by
    rw [skipBlanks, List.dropWhile_cons_of_neg
      (by simp [isBlank, notBlank, notTab])]
    exact afterBreak?_eq_none (by simpa using notLineFeed)
      (by simpa using notReturn)
  rw [readBasicLines, noBreak]
  dsimp only
  split
  next notRead =>
    rw [read] at notRead
    cases notRead
  next readToo =>
    rw [read] at readToo
    cases readToo
    rfl

/-- Three quotes close a text, but quotes before them belong to it. -/
theorem readBasicLines_close
    (noQuote : rest.head? ≠ some '"')
    (count : Nat)
    (atMostTwo : count ≤ 2) :
    readBasicLines
        (List.replicate count '"' ++ '"' :: '"' :: '"' :: rest) =
      some (List.replicate count '"', rest) := by
  rw [replicate_append_quotes atMostTwo, readBasicLines,
    readLastQuotes_replicate noQuote atMostTwo]

/-- A character other than a quote is written as itself or as an escape. -/
theorem readBasicLines_writeBasicLines_cons
    (notQuote : character ≠ '"')
    (quotes : Nat)
    (text rest : List Char) :
    readBasicLines (writeBasicLines quotes (character :: text) ++ rest) =
      (readBasicLines (writeBasicLines 0 text ++ rest)).map
        (behind character) := by
  by_cases isLineFeed : character = '\n'
  · subst isLineFeed
    rw [writeBasicLines, List.cons_append]
    exact readBasicLines_cons (fun isQuote => absurd isQuote notQuote)
      (by decide) (by decide) (Or.inr rfl)
  · rw [writeBasicLines]
    · cases escaped : escape? character with
      | none =>
          obtain ⟨notBackslash, plain⟩ := of_escape?_eq_none escaped
          have notReturn : character ≠ '\r' := by
            rintro rfl
            exact absurd plain (by decide)
          exact readBasicLines_cons
            (fun isQuote => absurd isQuote notQuote)
            notBackslash notReturn (Or.inl plain)
      | some escape =>
          obtain ⟨letter, tail, rfl, notSpace, read⟩ :=
            exists_of_escape?_eq_some escaped
          rw [List.append_assoc]
          exact readBasicLines_escape notSpace (read _)
    · exact isLineFeed
    · exact notQuote

/-- What is written for anything but a quote does not begin with one. -/
theorem writeBasicLines_cons_ne_quote
    (notQuote : character ≠ '"')
    (quotes : Nat)
    (text rest after : List Char) :
    writeBasicLines quotes (character :: text) ++ rest ≠ '"' :: after := by
  by_cases isLineFeed : character = '\n'
  · subst isLineFeed
    rw [writeBasicLines]
    simp
  · rw [writeBasicLines]
    · cases escaped : escape? character with
      | none =>
          simp [notQuote]
      | some escape =>
          obtain ⟨letter, tail, rfl, _, _⟩ :=
            exists_of_escape?_eq_some escaped
          simp
    · exact isLineFeed
    · exact notQuote

/--
What is written after a quote begins with two more only where at most one quote
is left before the closing ones.
-/
theorem of_quotes_written
    {quotes : Nat}
    {text : List Char}
    (positive : 0 < quotes)
    (begins :
      writeBasicLines quotes text ++ '"' :: '"' :: '"' :: rest =
        '"' :: '"' :: after) :
    text = [] ∨ text = ['"'] ∧ quotes < 2 := by
  rcases text with _ | ⟨first, text⟩
  · exact Or.inl rfl
  · by_cases isQuote : first = '"'
    · subst isQuote
      rw [writeBasicLines] at begins
      split at begins
      next few =>
        rw [List.cons_append, List.cons.injEq] at begins
        have full : quotes + 1 = 2 := by omega
        rw [full] at begins
        rcases text with _ | ⟨second, text⟩
        · exact Or.inr ⟨rfl, few⟩
        · by_cases isSecondQuote : second = '"'
          · subst isSecondQuote
            simp [writeBasicLines] at begins
          · exact absurd begins.2
              (writeBasicLines_cons_ne_quote isSecondQuote _ _ _ _)
      next => simp at begins
    · exact absurd begins (writeBasicLines_cons_ne_quote isQuote _ _ _ _)

/-- Any text is read back from several lines with escapes. -/
theorem readBasicLines_write
    (noQuote : rest.head? ≠ some '"')
    (quotes : Nat)
    (text : List Char) :
    readBasicLines
        (writeBasicLines quotes text ++ '"' :: '"' :: '"' :: rest) =
      some (text, rest) := by
  induction text generalizing quotes with
  | nil =>
      exact readBasicLines_close noQuote 0 (Nat.zero_le 2)
  | cons character text inductionHypothesis =>
      by_cases isQuote : character = '"'
      · subst isQuote
        rw [writeBasicLines]
        split
        next few =>
          by_cases closing :
              ∃ after,
                writeBasicLines (quotes + 1) text ++
                    '"' :: '"' :: '"' :: rest =
                  '"' :: '"' :: after
          · -- The reader takes the quotes that are left together with the
            -- closing ones.
            obtain ⟨after, begins⟩ := closing
            rcases of_quotes_written (Nat.succ_pos quotes) begins with
              rfl | ⟨rfl, fewLeft⟩
            · exact readBasicLines_close noQuote 1 (by decide)
            · rw [writeBasicLines, if_pos fewLeft]
              exact readBasicLines_close noQuote 2 (by decide)
          · rw [List.cons_append, readBasicLines_cons
                (fun _ after begins => closing ⟨after, begins⟩)
                (by decide) (by decide) (Or.inl rfl),
              inductionHypothesis]
            rfl
        next =>
          have escapes :
              readBasicLines
                  ('\\' :: '"' ::
                    (writeBasicLines 0 text ++
                      '"' :: '"' :: '"' :: rest)) =
                (readBasicLines
                  (writeBasicLines 0 text ++
                    '"' :: '"' :: '"' :: rest)).map (behind '"') :=
            readBasicLines_escape (by decide) rfl
          rw [List.cons_append, List.cons_append, escapes,
            inductionHypothesis]
          rfl
      · rw [readBasicLines_writeBasicLines_cons isQuote,
          inductionHypothesis]
        rfl

end EscapedLines

section LiteralLines

variable {character : Char} {rest after : List Char}

/-- A quote belongs to the text unless two more follow it. -/
theorem readLiteralLines_cons
    (notClosing :
      character = '\'' → ∀ after, rest ≠ '\'' :: '\'' :: after)
    (notReturn : character ≠ '\r')
    (plain : IsPlainInLines character) :
    readLiteralLines (character :: rest) =
      (readLiteralLines rest).map (behind character) := by
  rw [readLiteralLines]
  · rw [if_neg plain.not_refused]
    rfl
  · exact fun after isQuote => notClosing isQuote after
  · exact fun _ isReturn _ => notReturn isReturn

/-- Three quotes close a text, but quotes before them belong to it. -/
theorem readLiteralLines_close
    (noQuote : rest.head? ≠ some '\'')
    (count : Nat)
    (atMostTwo : count ≤ 2) :
    readLiteralLines
        (List.replicate count '\'' ++ '\'' :: '\'' :: '\'' :: rest) =
      some (List.replicate count '\'', rest) := by
  rw [replicate_append_quotes atMostTwo, readLiteralLines,
    readLastQuotes_replicate noQuote atMostTwo]

theorem hasLongRun_cons
    {quote : Char}
    {text : List Char}
    (noLongRun : hasLongRun quote (character :: text) = false) :
    hasLongRun quote text = false ∧
      (character = quote → ∀ after, text ≠ quote :: quote :: after) := by
  match text with
  | [] =>
      exact ⟨rfl, by simp⟩
  | [second] =>
      exact ⟨rfl, by simp⟩
  | second :: third :: text =>
      rw [hasLongRun, Bool.or_eq_false_iff] at noLongRun
      refine ⟨noLongRun.2, ?_⟩
      rintro rfl after same
      cases same
      simp at noLongRun

/-- Text without long runs of quotes is read back from several lines. -/
theorem readLiteralLines_write
    {text : List Char}
    (plain : hasRareControl text = false)
    (noLongRun : hasLongRun '\'' text = false)
    (noQuote : rest.head? ≠ some '\'') :
    readLiteralLines (text ++ '\'' :: '\'' :: '\'' :: rest) =
      some (text, rest) := by
  induction text with
  | nil =>
      exact readLiteralLines_close noQuote 0 (Nat.zero_le 2)
  | cons character text inductionHypothesis =>
      obtain ⟨noLongRunLater, noRunHere⟩ := hasLongRun_cons noLongRun
      simp only [hasRareControl, List.any_cons, Bool.or_eq_false_iff,
        Bool.and_eq_false_iff, decide_eq_false_iff_not, ne_eq,
        Decidable.not_not] at plain
      have notReturn : character ≠ '\r' := by
        rintro rfl
        exact absurd plain.1 (by decide)
      by_cases closing :
          character = '\'' ∧
            ∃ after,
              text ++ '\'' :: '\'' :: '\'' :: rest = '\'' :: '\'' :: after
      · -- The reader takes the quotes that are left together with the
        -- closing ones.
        obtain ⟨rfl, after, begins⟩ := closing
        match text with
        | [] =>
            exact readLiteralLines_close noQuote 1 (by decide)
        | [second] =>
            injection begins with isQuote
            subst isQuote
            exact readLiteralLines_close noQuote 2 (by decide)
        | second :: third :: text =>
            injection begins with isQuote begins
            injection begins with isThirdQuote
            subst isQuote isThirdQuote
            exact absurd rfl (noRunHere rfl text)
      · rw [List.cons_append, readLiteralLines_cons
            (fun isQuote after begins => closing ⟨isQuote, after, begins⟩)
            notReturn plain.1,
          inductionHypothesis plain.2 noLongRunLater]
        rfl

end LiteralLines

end QueryPack.Toml
