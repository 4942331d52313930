import QueryPack.Toml.Number
import QueryPack.Toml.Quoted
import QueryPack.Toml.Table

namespace QueryPack.Toml

/-!
# Reading values and statements

A file is a sequence of statements: assignments to dotted keys, and headers
that open a table or the next element of an array of tables. Reading a file
yields its statements; what they mean together is the business of tables.
-/

/-- The deepest nesting of arrays and inline tables. -/
def maxDepth : Nat := 79

/-- The largest number of parts of a dotted key. -/
def maxKeyParts : Nat := 79

def isBareKeyChar (character : Char) : Bool :=
  ('A' ≤ character && character ≤ 'Z') || ('a' ≤ character && character ≤ 'z') ||
    ('0' ≤ character && character ≤ '9') || character = '_' || character = '-'

def isBareValueChar (character : Char) : Bool :=
  isBareKeyChar character || character = '+' || character = '.' || character = ':'

/--
Read parts one after the other until `step` says that there are no more.

A step that reads nothing is taken for a failure, so that reading ends.
-/
def readParts (step : Reader (Option α)) (text : List Char) :
    Option (List α × List Char) :=
  match step text with
  | none => none
  | some (none, rest) => some ([], rest)
  | some (some part, rest) =>
      if rest.length < text.length then
        (readParts step rest).map fun (parts, rest) => (part :: parts, rest)
      else
        none
  termination_by text.length

def readKeyPart : Reader String
  | '"' :: rest => (readBasic rest).map fun (part, rest) => (String.ofList part, rest)
  | '\'' :: rest => (readLiteral rest).map fun (part, rest) => (String.ofList part, rest)
  | text =>
      if (text.takeWhile isBareKeyChar).isEmpty then
        none
      else
        some (String.ofList (text.takeWhile isBareKeyChar), text.dropWhile isBareKeyChar)

/-- Reads a dot and the part of a key behind it, if a dot comes next. -/
def readDottedPart : Reader (Option String)
  | '.' :: rest => do
      let (part, rest) ← readKeyPart (skipBlanks rest)
      some (some part, skipBlanks rest)
  | text => some (none, text)

/-- Reads a dotted key with the blanks around its parts. -/
def readKey : Reader Key := fun text => do
  let (head, rest) ← readKeyPart (skipBlanks text)
  let (tail, rest) ← readParts readDottedPart (skipBlanks rest)
  if tail.length < maxKeyParts then
    some (Key.ofParts head tail, rest)
  else
    none

/--
Reads a value that is a single word.

A date may be followed by one blank and a time.
-/
def readBare : Reader Value := fun text =>
  let token := text.takeWhile isBareValueChar
  let rest := text.dropWhile isBareValueChar
  match date? token, rest with
  | some date, ' ' :: after =>
      if (after.takeWhile isBareValueChar).isEmpty then
        some (.dateTime (.dateOnly date), rest)
      else do
        let both ← dateWithTime? token (after.takeWhile isBareValueChar)
        some (.dateTime both, after.dropWhile isBareValueChar)
  | _, _ => do
      some (← bareValue? token, rest)

/-- Reads a key, an equals sign and a value. -/
def readAssignment (readValue : Reader Value) : Reader Assignment := fun text => do
  let (key, rest) ← readKey text
  match rest with
  | '=' :: rest => do
      let (value, rest) ← readValue (skipBlanks rest)
      some (⟨key, value⟩, skipBlanks rest)
  | _ => none

/-- Reads an item of an array with its comma, if there is one before the bracket. -/
def readArrayItem (readValue : Reader Value) : Reader (Option Value) := fun text =>
  match skipSpace false text with
  | ']' :: rest => some (none, ']' :: rest)
  | text => do
      let (value, rest) ← readValue text
      match skipSpace false rest with
      | ',' :: rest => some (some value, rest)
      | ']' :: rest => some (some value, ']' :: rest)
      | _ => none

def readArray (readValue : Reader Value) : Reader Value := fun text => do
  let (items, rest) ← readParts (readArrayItem readValue) text
  match rest with
  | ']' :: rest => some (.array items, rest)
  | _ => none

/-- Reads a comma and the entry of an inline table behind it, if a comma comes next. -/
def readInlineEntry (readValue : Reader Value) : Reader (Option Assignment)
  | ',' :: rest => do
      let (assignment, rest) ← readAssignment readValue rest
      some (some assignment, rest)
  | text => some (none, text)

/-- Reads an inline table behind its opening brace. -/
def readInlineTable (readValue : Reader Value) : Reader Value := fun text =>
  match skipBlanks text with
  | '}' :: rest => some (.table [], rest)
  | text => do
      let (first, rest) ← readAssignment readValue text
      let (others, rest) ← readParts (readInlineEntry readValue) rest
      match rest with
      | '}' :: rest => do
          let table ← Table.empty.assignAll (first :: others)
          some (.table table.toDocument, rest)
      | _ => none

/-- Reads a value in which arrays and inline tables nest at most `depth` deep. -/
def readValue (depth : Nat) : Reader Value
  | '"' :: rest =>
      (readQuoted ('"' :: rest)).map fun (text, rest) => (.string (String.ofList text), rest)
  | '\'' :: rest =>
      (readQuoted ('\'' :: rest)).map fun (text, rest) => (.string (String.ofList text), rest)
  | '[' :: rest =>
      match depth with
      | 0 => none
      | depth + 1 => readArray (readValue depth) rest
  | '{' :: rest =>
      match depth with
      | 0 => none
      | depth + 1 => readInlineTable (readValue depth) rest
  | text => readBare text

def readHeader : Reader Header
  | '[' :: '[' :: rest => do
      let (key, rest) ← readKey rest
      match rest with
      | ']' :: ']' :: rest => do
          some (⟨.element, key⟩, ← afterLine? rest)
      | _ => none
  | '[' :: rest => do
      let (key, rest) ← readKey rest
      match rest with
      | ']' :: rest => do
          some (⟨.table, key⟩, ← afterLine? rest)
      | _ => none
  | _ => none

/-- Reads the next statement, or nothing from a line without one; `none` at the end. -/
def readStatement : Reader (Option (Option Statement)) := fun text =>
  match skipBlanks text with
  | [] => some (none, [])
  | '[' :: rest => do
      let (header, rest) ← readHeader ('[' :: rest)
      some (some (some (.header header)), rest)
  | character :: rest =>
      if character = '#' || character = '\n' || character = '\r' then do
        some (some none, ← afterLine? (character :: rest))
      else do
        let (assignment, rest) ← readAssignment (readValue maxDepth) (character :: rest)
        some (some (some (.assignment assignment)), ← afterLine? rest)

/-- The text after a byte order mark at its front. -/
def skipByteOrderMark : List Char → List Char
  | '\ufeff' :: rest => rest
  | text => text

/-- The statements of a file, if its text is well-formed. -/
def statements? (text : List Char) : Option (List Statement) :=
  match readParts readStatement (skipByteOrderMark text) with
  | some (statements, []) => some (statements.filterMap id)
  | _ => none

/-- The document that a text stands for, if it is well-formed and free of conflicts. -/
def document? (text : String) : Option Document := do
  let table ← Table.ofStatements? (← statements? text.toList)
  some table.toDocument

end QueryPack.Toml
