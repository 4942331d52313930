import QueryPack.Text.Hex

namespace QueryPack

/-!
# JSON documents

A JSON value and its two written forms: compact on one line, and pretty with
two blanks of indentation. Strings keep every character but quotes, backslashes
and control characters as it is.
-/

/-- A JSON value; all numbers are whole. -/
inductive Json where
  | null
  | bool (value : Bool)
  | number (value : Int)
  | string (text : String)
  | array (items : List Json)
  | object (fields : List (String × Json))
  deriving Repr

namespace Json

/-- A character inside a JSON string. -/
def escape (character : Char) : List Char :=
  match character with
  | '"' => ['\\', '"']
  | '\\' => ['\\', '\\']
  | '\x08' => ['\\', 'b']
  | '\x0c' => ['\\', 'f']
  | '\n' => ['\\', 'n']
  | '\r' => ['\\', 'r']
  | '\t' => ['\\', 't']
  | _ =>
      if character < ' ' then
        ['\\', 'u', '0', '0', Text.hexDigit (character.toNat / 16),
          Text.hexDigit (character.toNat % 16)]
      else
        [character]

/-- A text between quotes. -/
def quote (text : String) : List Char :=
  '"' :: text.toList.flatMap escape ++ ['"']

mutual

/-- A value on one line. -/
def compactChars : Json → List Char
  | .null => "null".toList
  | .bool true => "true".toList
  | .bool false => "false".toList
  | .number value => (toString value).toList
  | .string text => quote text
  | .array items => '[' :: compactItems items ++ [']']
  | .object fields => '{' :: compactFields fields ++ ['}']

/-- Array items with commas between them. -/
def compactItems : List Json → List Char
  | [] => []
  | [item] => compactChars item
  | item :: rest => compactChars item ++ ',' :: compactItems rest

/-- Object fields with commas between them. -/
def compactFields : List (String × Json) → List Char
  | [] => []
  | [(name, value)] => quote name ++ ':' :: compactChars value
  | (name, value) :: rest =>
      quote name ++ ':' :: compactChars value ++ ',' :: compactFields rest

end

/-- A line break and the blanks of an indentation depth. -/
def newLine (depth : Nat) : List Char :=
  '\n' :: List.replicate (2 * depth) ' '

mutual

/-- A value over several lines, from an indentation depth. -/
def prettyChars (depth : Nat) : Json → List Char
  | .null => "null".toList
  | .bool true => "true".toList
  | .bool false => "false".toList
  | .number value => (toString value).toList
  | .string text => quote text
  | .array [] => ['[', ']']
  | .array (item :: rest) =>
      '[' :: prettyItems (depth + 1) (item :: rest) ++ newLine depth ++ [']']
  | .object [] => ['{', '}']
  | .object (field :: rest) =>
      '{' :: prettyFields (depth + 1) (field :: rest) ++ newLine depth ++ ['}']

/-- Array items on a line each. -/
def prettyItems (depth : Nat) : List Json → List Char
  | [] => []
  | [item] => newLine depth ++ prettyChars depth item
  | item :: rest => newLine depth ++ prettyChars depth item ++ ',' :: prettyItems depth rest

/-- Object fields on a line each. -/
def prettyFields (depth : Nat) : List (String × Json) → List Char
  | [] => []
  | [(name, value)] => newLine depth ++ quote name ++ ':' :: ' ' :: prettyChars depth value
  | (name, value) :: rest =>
      newLine depth ++ quote name ++ ':' :: ' ' :: prettyChars depth value ++
        ',' :: prettyFields depth rest

end

/-- The document on one line. -/
def compact (document : Json) : String :=
  String.ofList (compactChars document)

/-- The document over several lines. -/
def pretty (document : Json) : String :=
  String.ofList (prettyChars 0 document)

end Json

end QueryPack
