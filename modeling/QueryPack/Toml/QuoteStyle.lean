import QueryPack.Text.Hex
import QueryPack.Toml.Document

namespace QueryPack.Toml

/-!
# Writing quoted text

A text is written in the first form that needs no escapes: on one line before
several lines, with double quotes before single ones. Only a text that no form
can hold as it is gets escapes.
-/

/-- How a text is put between quotes. -/
inductive QuoteStyle where
  | basic
  | literal
  /-- Three double quotes, with escapes where needed. -/
  | basicLines
  | literalLines
  deriving Repr, DecidableEq

/-- Whether a text has more than two of a character in a row. -/
def hasLongRun (quote : Char) : List Char → Bool
  | first :: second :: third :: rest =>
      (first = quote && second = quote && third = quote) ||
        hasLongRun quote (second :: third :: rest)
  | _ => false

/-- Whether a text has a control character other than a tab or a line feed. -/
def hasRareControl (text : List Char) : Bool :=
  text.any fun character => isControl character && character ≠ '\n'

namespace QuoteStyle

/-- The form in which a value is written. -/
def ofText (text : List Char) : QuoteStyle :=
  let multiline := '\n' ∈ text
  if hasRareControl text then
    if multiline then .basicLines else .basic
  else if !multiline && '\\' ∉ text && '"' ∉ text then
    .basic
  else if !multiline && '\'' ∉ text then
    .literal
  else if '\\' ∉ text && !hasLongRun '"' text then
    .basicLines
  else if !hasLongRun '\'' text then
    .literalLines
  else if multiline then
    .basicLines
  else
    .basic

/-- The form in which a key that is no bare word is written. -/
def ofKey (key : List Char) : QuoteStyle :=
  if key.any isControl then
    .basic
  else if '\\' ∉ key && '"' ∉ key then
    .basic
  else if '\'' ∉ key then
    .literal
  else
    .basic

end QuoteStyle

/-- The escape of a character other than a quote, if it is not written as it is. -/
def escape? (character : Char) : Option (List Char) :=
  match character with
  | '\x08' => some ['\\', 'b']
  | '\t' => some ['\\', 't']
  | '\n' => some ['\\', 'n']
  | '\x0c' => some ['\\', 'f']
  | '\r' => some ['\\', 'r']
  | '\\' => some ['\\', '\\']
  | _ =>
      if isControl character then
        some ['\\', 'u', '0', '0', Text.upperHexDigit (character.toNat / 16),
          Text.upperHexDigit (character.toNat % 16)]
      else
        none

/-- A character between double quotes on one line. -/
def writeBasicChar (character : Char) : List Char :=
  if character = '"' then
    ['\\', '"']
  else
    (escape? character).getD [character]

/--
Text between three double quotes, after `quotes` quotes in a row.

Every third quote in a row is escaped, and an escape begins the count anew.
-/
def writeBasicLines (quotes : Nat) : List Char → List Char
  | [] => []
  | '\n' :: rest => '\n' :: writeBasicLines 0 rest
  | '"' :: rest =>
      if quotes < 2 then
        '"' :: writeBasicLines (quotes + 1) rest
      else
        '\\' :: '"' :: writeBasicLines 0 rest
  | character :: rest =>
      (escape? character).getD [character] ++ writeBasicLines 0 rest

/-- The line break after opening quotes, which only a text of several lines gets. -/
def openingBreak (text : List Char) : List Char :=
  if '\n' ∈ text then ['\n'] else []

def QuoteStyle.write (style : QuoteStyle) (text : List Char) : List Char :=
  match style with
  | basic =>
      '"' :: text.flatMap writeBasicChar ++ ['"']
  | literal =>
      '\'' :: text ++ ['\'']
  | basicLines =>
      '"' :: '"' :: '"' :: openingBreak text ++ writeBasicLines 0 text ++ ['"', '"', '"']
  | literalLines =>
      '\'' :: '\'' :: '\'' :: openingBreak text ++ text ++ ['\'', '\'', '\'']

def writeText (text : String) : List Char :=
  (QuoteStyle.ofText text.toList).write text.toList

/-- Whether a key can do without quotes. -/
def isBareKey (key : List Char) : Bool :=
  !key.isEmpty && key.all isBareKeyChar

def writeKey (key : String) : List Char :=
  if isBareKey key.toList then
    key.toList
  else
    (QuoteStyle.ofKey key.toList).write key.toList

end QueryPack.Toml
