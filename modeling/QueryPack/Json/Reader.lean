import QueryPack.Json

namespace QueryPack.Json

/-!
# Reading JSON

A text that is one JSON value from its first character to its last is read as
that value. Numbers must be whole. How deep arrays and objects may nest is
limited, so that a reader never runs out of stack.
-/

/-- Reads a value off the front of a text, if there is one, and gives the rest. -/
abbrev Reader (α : Type) := List Char → Option (α × List Char)

/-- How deep arrays and objects may nest. -/
def maxDepth : Nat := 128

def isBlank (character : Char) : Bool :=
  character ∈ [' ', '\n', '\r', '\t']

def skipBlanks (text : List Char) : List Char :=
  text.dropWhile isBlank

section Strings

/-- Reads the four digits of a UTF-16 code unit. -/
def readCodeUnit : Reader Nat
  | a :: b :: c :: d :: rest =>
      ([a, b, c, d].foldlM
        (fun value digit => (Text.hexValue? digit).map (16 * value + ·)) 0).map
        (·, rest)
  | _ => none

/-- Reads the code unit that completes a pair of surrogates. -/
def readLowSurrogate (high : Nat) : Reader Char
  | '\\' :: 'u' :: rest =>
      match readCodeUnit rest with
      | none => none
      | some (low, rest) =>
          if 0xdc00 ≤ low ∧ low < 0xe000 then
            some (Char.ofNat (0x10000 + 0x400 * (high - 0xd800) + (low - 0xdc00)),
              rest)
          else
            none
  | _ => none

/-- Reads a code point: a code unit of its own, or a pair of surrogates. -/
def readCodePoint : Reader Char := fun text =>
  match readCodeUnit text with
  | none => none
  | some (unit, rest) =>
      if unit < 0xd800 ∨ 0xe000 ≤ unit then
        some (Char.ofNat unit, rest)
      else if unit < 0xdc00 then
        readLowSurrogate unit rest
      else
        none

/-- Reads an escape behind its backslash. -/
def readEscape : Reader Char
  | '"' :: rest => some ('"', rest)
  | '\\' :: rest => some ('\\', rest)
  | '/' :: rest => some ('/', rest)
  | 'b' :: rest => some ('\x08', rest)
  | 'f' :: rest => some ('\x0c', rest)
  | 'n' :: rest => some ('\n', rest)
  | 'r' :: rest => some ('\r', rest)
  | 't' :: rest => some ('\t', rest)
  | 'u' :: rest => readCodePoint rest
  | _ => none

theorem length_readCodeUnit_le {text rest : List Char} {unit : Nat}
    (read : readCodeUnit text = some (unit, rest)) :
    rest.length ≤ text.length := by
  unfold readCodeUnit at read
  split at read
  next =>
    obtain ⟨_, _, isPair⟩ := Option.map_eq_some_iff.mp read
    cases isPair
    simp only [List.length_cons]
    omega
  next => cases read

theorem length_readLowSurrogate_le {high : Nat} {text rest : List Char}
    {character : Char} (read : readLowSurrogate high text = some (character, rest)) :
    rest.length ≤ text.length := by
  unfold readLowSurrogate at read
  split at read
  next =>
    split at read
    next => cases read
    next lowRead =>
      have shorter := length_readCodeUnit_le lowRead
      split at read
      next =>
        injection read with isPair
        injection isPair with _ isRest
        subst isRest
        simp only [List.length_cons]
        omega
      next => cases read
  next => cases read

theorem length_readCodePoint_le {text rest : List Char} {character : Char}
    (read : readCodePoint text = some (character, rest)) :
    rest.length ≤ text.length := by
  unfold readCodePoint at read
  split at read
  next => cases read
  next unitRead =>
    have shorter := length_readCodeUnit_le unitRead
    split at read
    next =>
      injection read with isPair
      injection isPair with _ isRest
      exact isRest ▸ shorter
    next =>
      split at read
      next => exact Nat.le_trans (length_readLowSurrogate_le read) shorter
      next => cases read

theorem length_readEscape_lt {text rest : List Char} {character : Char}
    (read : readEscape text = some (character, rest)) :
    rest.length < text.length := by
  unfold readEscape at read
  split at read
  case h_9 =>
    exact Nat.lt_succ_of_le (length_readCodePoint_le read)
  case h_10 =>
    cases read
  all_goals
    cases read
    exact Nat.lt_succ_self _

/-- Reads the characters of a string behind its opening quote. -/
def readCharacters (text : List Char) : Option (List Char × List Char) :=
  match text with
  | [] => none
  | '"' :: rest => some ([], rest)
  | '\\' :: rest =>
      match _escape : readEscape rest with
      | none => none
      | some (character, after) =>
          (readCharacters after).map fun (later, rest) =>
            (character :: later, rest)
  | character :: rest =>
      if character < ' ' then
        none
      else
        (readCharacters rest).map fun (later, rest) =>
          (character :: later, rest)
  termination_by text.length
  decreasing_by
  · have := length_readEscape_lt _escape
    simp only [List.length_cons]
    omega
  · simp

def readString : Reader String
  | '"' :: rest =>
      (readCharacters rest).map fun (characters, rest) =>
        (String.ofList characters, rest)
  | _ => none

end Strings

/-- Reads digits; only zero itself may begin with a zero. -/
def readNatural : Reader Nat := fun text =>
  match text.takeWhile Char.isDigit with
  | [] => none
  | '0' :: _ :: _ => none
  | digits => some (Nat.ofDigitChars 10 digits 0, text.dropWhile Char.isDigit)

def readNumber : Reader Int
  | '-' :: rest =>
      (readNatural rest).map fun (value, rest) => (-(value : Int), rest)
  | text =>
      (readNatural text).map fun (value, rest) => ((value : Int), rest)

/-- Reads items with commas between them, and the bracket behind the last one. -/
def readItems (closing : Char) (readItem : Reader α) (text : List Char) :
    Option (List α × List Char) :=
  match readItem (skipBlanks text) with
  | none => none
  | some (item, rest) =>
      match skipBlanks rest with
      | ',' :: later =>
          if later.length < text.length then
            (readItems closing readItem later).map fun (items, rest) =>
              (item :: items, rest)
          else
            none
      | character :: later =>
          if character = closing then
            some ([item], later)
          else
            none
      | [] => none
  termination_by text.length

/-- Reads the inside of a pair of brackets up to the closing one. -/
def readBracketed (closing : Char) (readItem : Reader α) : Reader (List α) := fun text =>
  match skipBlanks text with
  | [] => none
  | character :: rest =>
      if character = closing then
        some ([], rest)
      else
        readItems closing readItem text

/-- Reads a name, a colon and a value. -/
def readField (readValue : Reader α) : Reader (String × α) := fun text => do
  let (name, rest) ← readString text
  match skipBlanks rest with
  | ':' :: rest => do
      let (value, rest) ← readValue (skipBlanks rest)
      some ((name, value), rest)
  | _ => none

/-- Reads a value in which arrays and objects nest at most `depth` deep. -/
def readValue (depth : Nat) : Reader Json
  | 'n' :: 'u' :: 'l' :: 'l' :: rest => some (.null, rest)
  | 't' :: 'r' :: 'u' :: 'e' :: rest => some (.bool true, rest)
  | 'f' :: 'a' :: 'l' :: 's' :: 'e' :: rest => some (.bool false, rest)
  | '"' :: rest =>
      (readString ('"' :: rest)).map fun (text, rest) => (.string text, rest)
  | '[' :: rest =>
      match depth with
      | 0 => none
      | depth + 1 =>
          (readBracketed ']' (readValue depth) rest).map fun (items, rest) =>
            (.array items, rest)
  | '{' :: rest =>
      match depth with
      | 0 => none
      | depth + 1 =>
          (readBracketed '}' (readField (readValue depth)) rest).map
            fun (fields, rest) => (.object fields, rest)
  | text => (readNumber text).map fun (value, rest) => (.number value, rest)

/-- The value that a text is, from its first character to its last. -/
def ofText? (text : String) : Option Json :=
  match readValue maxDepth text.toList with
  | some (value, []) => some value
  | _ => none

end QueryPack.Json
