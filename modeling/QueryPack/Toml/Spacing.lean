namespace QueryPack.Toml

/-!
# Blanks, line ends and comments

The parts of a configuration file between its values. A line ends with a line
feed, before which a carriage return may stand; a carriage return anywhere else
is an error. Comments and strings hold tabs but no other control characters.
-/

/-- Reads a value off the front of a text, if there is one, and gives the rest. -/
abbrev Reader (α : Type) := List Char → Option (α × List Char)

def isBlank (character : Char) : Bool :=
  character = ' ' || character = '\t'

/-- Whether a character is a control character, a tab aside. -/
def isControl (character : Char) : Bool :=
  (character < ' ' && character ≠ '\t') || character = '\x7f'

def skipBlanks (text : List Char) : List Char :=
  text.dropWhile isBlank

/-- The text after a line break, if it begins with one. -/
def afterBreak? : List Char → Option (List Char)
  | '\n' :: rest => some rest
  | '\r' :: '\n' :: rest => some rest
  | _ => none

def skipComment : List Char → List Char
  | '#' :: rest => rest.dropWhile (fun character => !isControl character)
  | text => text

/-- The text after blanks, a comment and the end of the line or of the file. -/
def afterLine? (text : List Char) : Option (List Char) :=
  match skipComment (skipBlanks text) with
  | [] => some []
  | rest => afterBreak? rest

/-- The text after any number of blanks and line breaks. -/
def skipLines : List Char → List Char
  | '\n' :: rest => skipLines rest
  | '\r' :: '\n' :: rest => skipLines rest
  | character :: rest =>
      if isBlank character then
        skipLines rest
      else
        character :: rest
  | [] => []

/--
The text after any number of blanks, line breaks and comments; `inComment` says
that a comment has begun.
-/
def skipSpace (inComment : Bool) : List Char → List Char
  | '\n' :: rest => skipSpace false rest
  | '\r' :: '\n' :: rest => skipSpace false rest
  | character :: rest =>
      if inComment then
        if isControl character then character :: rest else skipSpace true rest
      else if isBlank character then
        skipSpace false rest
      else if character = '#' then
        skipSpace true rest
      else
        character :: rest
  | [] => []

theorem length_skipLines_le (text : List Char) :
    (skipLines text).length ≤ text.length := by
  fun_induction skipLines text <;> simp_all <;> omega

end QueryPack.Toml
