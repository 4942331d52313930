import Mathlib.Data.List.Forall2
import QueryPack.Proofs.WrittenText

namespace QueryPack.Toml

/-!
# Lines of statements

A text stands for statements if a reader that meets it reads them and then goes
on with what follows. Such texts may be put one behind another, with empty lines
between them. A written assignment and a written header each stand for
themselves.
-/

section Parts

/-- The end of the parts is where a step reads none. -/
theorem readParts_done
    {step : Reader (Option α)}
    {text rest : List Char}
    (read : step text = some (none, rest)) :
    readParts step text = some ([], rest) := by
  rw [readParts]
  simp only [read]

/-- A step that reads a part is followed by the parts behind it. -/
theorem readParts_step
    {step : Reader (Option α)}
    {text rest : List Char}
    {part : α}
    (read : step text = some (some part, rest))
    (shorter : rest.length < text.length) :
    readParts step text =
      (readParts step rest).map fun (parts, rest) => (part :: parts, rest) := by
  rw [readParts]
  simp only [read, if_pos shorter]

end Parts

section Blanks

variable {text : List Char}

theorem skipBlanks_eq_self
    (noBlank : ∀ first, text.head? = some first → isBlank first = false) :
    skipBlanks text = text := by
  cases text with
  | nil => rfl
  | cons first rest => simp [skipBlanks, noBlank first rfl]

/-- A written key begins neither with a blank nor as another kind of line does. -/
theorem writeKey_front
    (key : String) :
    ∃ first later,
      writeKey key = first :: later ∧
        isBlank first = false ∧
        first ∉ ['[', '#', '\n', '\r'] := by
  obtain ⟨first, later, shape, front⟩ := exists_head_writeKey key
  refine ⟨first, later, shape, ?_, ?_⟩
  · rw [Bool.eq_false_iff]
    intro blank
    have isOne : first = ' ' ∨ first = '\t' := by
      simpa [isBlank] using blank
    rcases isOne with rfl | rfl <;> revert front <;> decide
  · intro special
    simp only [List.mem_cons, List.not_mem_nil, or_false] at special
    rcases special with rfl | rfl | rfl | rfl <;>
      revert front <;> decide

/-- No blanks stand before a written key. -/
theorem skipBlanks_writeKey
    (key : String)
    (rest : List Char) :
    skipBlanks (writeKey key ++ rest) = writeKey key ++ rest := by
  obtain ⟨first, later, shape, noBlank, _⟩ := writeKey_front key
  rw [shape]
  apply skipBlanks_eq_self
  rintro _ ⟨⟩
  exact noBlank

/-- No blanks stand before a written text. -/
theorem skipBlanks_writeText
    (text : String)
    (rest : List Char) :
    skipBlanks (writeText text ++ rest) = writeText text ++ rest := by
  unfold writeText
  cases QuoteStyle.ofText text.toList <;> rfl

end Blanks

section Keys

/-- The key of an assignment is read up to its equals sign. -/
theorem readKey_writeKey
    (key : String)
    (rest : List Char) :
    readKey (writeKey key ++ ' ' :: '=' :: rest) =
      some (⟨[], key⟩, '=' :: rest) := by
  have head :
      readKeyPart (writeKey key ++ ' ' :: '=' :: rest) =
        some (key, ' ' :: '=' :: rest) :=
    readKeyPart_writeKey key (by rintro _ ⟨⟩; decide)
  have tail :
      readParts readDottedPart ('=' :: rest) = some ([], '=' :: rest) :=
    readParts_done rfl
  have blank : skipBlanks (' ' :: '=' :: rest) = '=' :: rest := rfl
  simp only [readKey, skipBlanks_writeKey, head, Option.bind_eq_bind,
    Option.bind_some, blank, tail]
  rfl

/-- The two keys of a header are read up to its bracket. -/
theorem readKey_writeKey_writeKey
    (table key : String)
    (rest : List Char) :
    readKey (writeKey table ++ '.' :: (writeKey key ++ ']' :: rest)) =
      some (⟨[table], key⟩, ']' :: rest) := by
  have head :
      readKeyPart (writeKey table ++ '.' :: (writeKey key ++ ']' :: rest)) =
        some (table, '.' :: (writeKey key ++ ']' :: rest)) :=
    readKeyPart_writeKey table (by rintro _ ⟨⟩; decide)
  have dotted :
      readDottedPart ('.' :: (writeKey key ++ ']' :: rest)) =
        some (some key, ']' :: rest) := by
    rw [readDottedPart, skipBlanks_writeKey,
      readKeyPart_writeKey key (by rintro _ ⟨⟩; decide)]
    rfl
  have tail :
      readParts readDottedPart ('.' :: (writeKey key ++ ']' :: rest)) =
        some ([key], ']' :: rest) := by
    have shorter :
        (']' :: rest).length <
          ('.' :: (writeKey key ++ ']' :: rest)).length := by
      simp only [List.length_cons, List.length_append]
      omega
    rw [readParts_step dotted shorter, readParts_done rfl]
    rfl
  have noBlank :
      skipBlanks ('.' :: (writeKey key ++ ']' :: rest)) =
        '.' :: (writeKey key ++ ']' :: rest) :=
    rfl
  simp only [readKey, skipBlanks_writeKey, head, Option.bind_eq_bind,
    Option.bind_some, noBlank, tail]
  rfl

end Keys

section Lines

/-- A line that begins as no other statement does is read as an assignment. -/
theorem readStatement_of_readAssignment
    {first : Char}
    {later rest : List Char}
    {assignment : Assignment}
    (noBlank : isBlank first = false)
    (ordinary : first ∉ ['[', '#', '\n', '\r'])
    (read :
      readAssignment (readValue maxDepth) (first :: later) =
        some (assignment, '\n' :: rest)) :
    readStatement (first :: later) =
      some (some (some (.assignment assignment)), rest) := by
  simp only [List.mem_cons, List.not_mem_nil, or_false, not_or] at ordinary
  obtain ⟨notBracket, notComment, notLineFeed, notReturn⟩ := ordinary
  have noBlanks : skipBlanks (first :: later) = first :: later :=
    skipBlanks_eq_self (by rintro _ ⟨⟩; exact noBlank)
  rw [readStatement, noBlanks]
  split
  next empty => cases empty
  next begins =>
    injection begins with isBracket
    exact absurd isBracket notBracket
  next begins =>
    injection begins with isFirst isLater
    subst isFirst isLater
    rw [if_neg (by simp [notComment, notLineFeed, notReturn]), read]
    rfl

/-- An assignment of a text, on a line of its own. -/
theorem readStatement_assignment
    (key text : String)
    (rest : List Char) :
    readStatement
        (writeKey key ++ ' ' :: '=' :: ' ' :: writeText text ++ '\n' :: rest) =
      some (some (some (.assignment ⟨⟨[], key⟩, .string text⟩)), rest) := by
  have shape :
      writeKey key ++ ' ' :: '=' :: ' ' :: writeText text ++ '\n' :: rest =
        writeKey key ++
          ' ' :: '=' :: ' ' :: (writeText text ++ '\n' :: rest) := by
    simp
  have value :
      readValue maxDepth
          (skipBlanks (' ' :: (writeText text ++ '\n' :: rest))) =
        some (.string text, '\n' :: rest) := by
    have blank :
        skipBlanks (' ' :: (writeText text ++ '\n' :: rest)) =
          skipBlanks (writeText text ++ '\n' :: rest) :=
      rfl
    rw [blank, skipBlanks_writeText, readValue_writeText]
  have assignment :
      readAssignment (readValue maxDepth)
          (writeKey key ++
            ' ' :: '=' :: ' ' :: (writeText text ++ '\n' :: rest)) =
        some (⟨⟨[], key⟩, .string text⟩, '\n' :: rest) := by
    rw [readAssignment, readKey_writeKey]
    simp only [Option.bind_eq_bind, Option.bind_some, value]
    rfl
  obtain ⟨first, later, front, noBlank, ordinary⟩ := writeKey_front key
  rw [front] at assignment
  rw [shape, front]
  exact readStatement_of_readAssignment noBlank ordinary assignment

/-- A header of a table inside another one, on a line of its own. -/
theorem readStatement_header
    (table key : String)
    (rest : List Char) :
    readStatement
        ('[' :: (writeKey table ++ '.' :: (writeKey key ++ ']' :: '\n' :: rest))) =
      some (some (some (.header ⟨.table, ⟨[table], key⟩⟩)), rest) := by
  have header :
      readHeader
          ('[' :: (writeKey table ++
            '.' :: (writeKey key ++ ']' :: '\n' :: rest))) =
        some (⟨.table, ⟨[table], key⟩⟩, rest) := by
    rw [readHeader, readKey_writeKey_writeKey]
    · rfl
    · obtain ⟨first, later, front, _, ordinary⟩ := writeKey_front table
      rintro after begins
      rw [front] at begins
      injection begins with isBracket
      rw [isBracket] at ordinary
      exact ordinary List.mem_cons_self
  rw [readStatement, skipBlanks, List.dropWhile_cons_of_neg (by decide)]
  simp only [header]
  rfl

end Lines

section Standing

/-- The statements at the front of a text, and what is left behind them. -/
def readStatements : Reader (List Statement) := fun text =>
  (readParts readStatement text).map fun (parts, rest) =>
    (parts.filterMap id, rest)

/-- Put statements in front of those that a reader has read. -/
def ahead (statements : List Statement)
    (read : List Statement × List Char) : List Statement × List Char :=
  (statements ++ read.1, read.2)

/-- Whatever follows the text is read on behind the statements. -/
def StandsFor (text : List Char) (statements : List Statement) : Prop :=
  ∀ rest,
    readStatements (text ++ rest) =
      (readStatements rest).map (ahead statements)

/-- A byte order mark begins no statement. -/
theorem readStatements_mark
    (rest : List Char) :
    readStatements ('\ufeff' :: rest) = none := by
  have noStatement : readStatement ('\ufeff' :: rest) = none := rfl
  rw [readStatements, readParts]
  simp only [noStatement]
  rfl

theorem readStatements_nil :
    readStatements [] = some ([], []) := by
  rw [readStatements, readParts_done rfl]
  rfl

namespace StandsFor

variable {text first second : List Char} {statements : List Statement}

theorem nil : StandsFor [] [] := by
  intro rest
  exact Option.map_id'.symm

theorem append
    {before after : List Statement}
    (firstStands : StandsFor first before)
    (secondStands : StandsFor second after) :
    StandsFor (first ++ second) (before ++ after) := by
  intro rest
  rw [List.append_assoc, firstStands, secondStands, Option.map_map]
  apply congrArg (fun change => (readStatements rest).map change)
  funext read
  exact congrArg (·, read.2) (List.append_assoc before after read.1).symm

/-- A line that is read as one part stands for it. -/
theorem of_readStatement
    (part : Option Statement)
    (nonempty : text ≠ [])
    (read :
      ∀ rest, readStatement (text ++ rest) = some (some part, rest)) :
    StandsFor text part.toList := by
  intro rest
  have shorter : rest.length < (text ++ rest).length := by
    have := List.length_pos_iff.mpr nonempty
    rw [List.length_append]
    omega
  rw [readStatements, readParts_step (read rest) shorter, readStatements,
    Option.map_map, Option.map_map]
  apply congrArg (fun change => (readParts readStatement rest).map change)
  funext read
  cases part <;> rfl

/-- An empty line stands for nothing. -/
theorem emptyLine : StandsFor ['\n'] [] :=
  of_readStatement none (by simp) (fun _ => rfl)

theorem assignmentLine
    (key text : String) :
    StandsFor
      (writeKey key ++ ' ' :: '=' :: ' ' :: writeText text ++ ['\n'])
      [.assignment ⟨⟨[], key⟩, .string text⟩] := by
  apply of_readStatement (some _)
  · simp
  · intro rest
    rw [List.append_assoc]
    exact readStatement_assignment key text rest

theorem headerLine
    (table key : String) :
    StandsFor
      ('[' :: writeKey table ++ '.' :: writeKey key ++ [']', '\n'])
      [.header ⟨.table, ⟨[table], key⟩⟩] := by
  apply of_readStatement (some _)
  · simp
  · intro rest
    simpa using readStatement_header table key rest

/-- Lines of one statement each stand for their statements in that order. -/
theorem flatMap
    {line : α → List Char}
    {statement : α → Statement}
    (each : ∀ item, StandsFor (line item) [statement item])
    (items : List α) :
    StandsFor (items.flatMap line) (items.map statement) := by
  induction items with
  | nil => exact nil
  | cons item items inductionHypothesis =>
      exact (each item).append inductionHypothesis

/-- Empty lines between the texts make no difference. -/
theorem intercalate
    {texts : List (List Char)}
    {parts : List (List Statement)}
    (each : List.Forall₂ StandsFor texts parts) :
    StandsFor (['\n'].intercalate texts) parts.flatten := by
  induction each with
  | nil => exact nil
  | @cons text _ texts _ stands later inductionHypothesis =>
      cases texts with
      | nil =>
          cases later
          simpa using stands
      | cons next texts =>
          rw [List.intercalate_cons_cons, List.append_assoc]
          exact stands.append (emptyLine.append inductionHypothesis)

/-- A text that stands for statements is well-formed and gives them. -/
theorem statements?_eq
    (stands : StandsFor text statements) :
    statements? text = some statements := by
  have read : readStatements text = some (statements, []) := by
    have readBeforeNothing := stands []
    rw [readStatements_nil, List.append_nil] at readBeforeNothing
    rw [readBeforeNothing]
    exact congrArg (fun statements => some (statements, []))
      (List.append_nil statements)
  have noMark : skipByteOrderMark text = text := by
    unfold skipByteOrderMark
    split
    next => rw [readStatements_mark] at read; cases read
    next => rfl
  obtain ⟨⟨parts, rest⟩, partsRead, same⟩ := Option.map_eq_some_iff.mp read
  injection same with sameStatements sameRest
  subst sameRest
  rw [statements?, noMark, partsRead]
  exact congrArg some sameStatements

end StandsFor

end Standing

end QueryPack.Toml
