import QueryPack.Text.Hex
import QueryPack.Toml.Spacing

namespace QueryPack.Toml

/-!
# Reading quoted text

There are four forms of quoted text: on one line or over several, and with
escapes or literal. Each reader starts behind the opening quotes and reads up to
and including the closing ones.
-/

/-- The character with a code given by hexadecimal digits. -/
def ofHexDigits? (digits : List Char) : Option Char := do
  let value ← digits.foldl
    (fun value digit => do return 16 * (← value) + (← Text.hexValue? digit)) (some 0)
  if value.isValidChar then
    some (Char.ofNat value)
  else
    none

def readEscape : Reader Char
  | 'b' :: rest => some ('\x08', rest)
  | 't' :: rest => some ('\t', rest)
  | 'n' :: rest => some ('\n', rest)
  | 'f' :: rest => some ('\x0c', rest)
  | 'r' :: rest => some ('\r', rest)
  | '"' :: rest => some ('"', rest)
  | '\\' :: rest => some ('\\', rest)
  | 'u' :: a :: b :: c :: d :: rest =>
      (ofHexDigits? [a, b, c, d]).map (·, rest)
  | 'U' :: a :: b :: c :: d :: e :: f :: g :: h :: rest =>
      (ofHexDigits? [a, b, c, d, e, f, g, h]).map (·, rest)
  | _ => none

theorem length_readEscape_lt {text rest : List Char} {character : Char}
    (read : readEscape text = some (character, rest)) :
    rest.length < text.length := by
  revert read
  fun_cases readEscape text <;> simp_all <;> omega

/-- Reads text with escapes on one line. -/
def readBasic (text : List Char) : Option (List Char × List Char) :=
  match text with
  | [] => none
  | '"' :: rest => some ([], rest)
  | '\\' :: rest =>
      match _escape : readEscape rest with
      | none => none
      | some (character, after) =>
          (readBasic after).map fun (later, rest) => (character :: later, rest)
  | character :: rest =>
      if isControl character then
        none
      else
        (readBasic rest).map fun (later, rest) => (character :: later, rest)
  termination_by text.length
  decreasing_by
  · have := length_readEscape_lt _escape
    simp only [List.length_cons]
    omega
  · simp

def readLiteral : Reader (List Char)
  | [] => none
  | '\'' :: rest => some ([], rest)
  | character :: rest =>
      if isControl character then
        none
      else
        (readLiteral rest).map fun (later, rest) => (character :: later, rest)

/-- The text after a line break at its front, which does not count. -/
def skipFirstBreak (text : List Char) : List Char :=
  (afterBreak? text).getD text

/--
The end of text over several lines, behind three closing quotes.

Up to two more quotes belong to the text, and the last three close it.
-/
def readLastQuotes (quote : Char) (rest : List Char) : List Char × List Char :=
  match rest with
  | first :: second :: after =>
      if first = quote ∧ second = quote then
        ([quote, quote], after)
      else if first = quote then
        ([quote], second :: after)
      else
        ([], rest)
  | [only] => if only = quote then ([quote], []) else ([], rest)
  | [] => ([], [])

/--
Reads text with escapes over several lines.

A backslash at the end of a line takes away the line break and all blanks and
line breaks that follow.
-/
def readBasicLines (text : List Char) : Option (List Char × List Char) :=
  match text with
  | [] => none
  | '"' :: '"' :: '"' :: rest => some (readLastQuotes '"' rest)
  | '\\' :: rest =>
      match afterBreak? (skipBlanks rest) with
      | some _ => readBasicLines (skipLines rest)
      | none =>
          match _escape : readEscape rest with
          | none => none
          | some (character, after) =>
              (readBasicLines after).map fun (later, rest) => (character :: later, rest)
  | '\r' :: '\n' :: rest =>
      (readBasicLines rest).map fun (later, rest) => ('\n' :: later, rest)
  | character :: rest =>
      if isControl character && character ≠ '\n' then
        none
      else
        (readBasicLines rest).map fun (later, rest) => (character :: later, rest)
  termination_by text.length
  decreasing_by
  · have := length_skipLines_le rest
    simp only [List.length_cons]
    omega
  · have := length_readEscape_lt _escape
    simp only [List.length_cons]
    omega
  · simp only [List.length_cons]
    omega
  · simp

/-- Reads literal text over several lines. -/
def readLiteralLines : Reader (List Char)
  | [] => none
  | '\'' :: '\'' :: '\'' :: rest => some (readLastQuotes '\'' rest)
  | '\r' :: '\n' :: rest =>
      (readLiteralLines rest).map fun (later, rest) => ('\n' :: later, rest)
  | character :: rest =>
      if isControl character && character ≠ '\n' then
        none
      else
        (readLiteralLines rest).map fun (later, rest) => (character :: later, rest)

def readQuoted : Reader (List Char)
  | '"' :: '"' :: '"' :: rest => readBasicLines (skipFirstBreak rest)
  | '\'' :: '\'' :: '\'' :: rest => readLiteralLines (skipFirstBreak rest)
  | '"' :: rest => readBasic rest
  | '\'' :: rest => readLiteral rest
  | _ => none

end QueryPack.Toml
