import QueryPack.Toml.Value

namespace QueryPack.Toml

/-!
# Tables under construction

Statements build a table step by step. How a table came about decides what may
still be done to it: a table opened by a header is finished, a table that only
lies on the way to another one may still be opened, and a table made by dotted
keys may grow by dotted keys of the same kind.
-/

/-- A dotted key: the parts that lead to a table, and the last one in it. -/
structure Key where
  path : List String
  last : String
  deriving Repr, DecidableEq

namespace Key

def ofParts (head : String) (tail : List String) : Key :=
  ⟨(head :: tail).dropLast, tail.getLast?.getD head⟩

end Key

/-- An assignment of a value to a dotted key. -/
structure Assignment where
  key : Key
  value : Value
  deriving Repr

/-- What a header opens. -/
inductive HeaderKind where
  | table
  /-- The next element of an array of tables. -/
  | element
  deriving Repr, DecidableEq

/-- The line that opens a table. -/
structure Header where
  kind : HeaderKind
  key : Key
  deriving Repr, DecidableEq

/-- One statement of a file. -/
inductive Statement where
  | header (header : Header)
  | assignment (assignment : Assignment)
  deriving Repr

/-- How a table came about. -/
inductive Origin where
  | opened
  /-- It only lies on the way to an opened table. -/
  | implied
  /-- A dotted key leads through it. -/
  | dotted
  deriving Repr, DecidableEq

/-- What a key of a table under construction holds. -/
inductive Item where
  | value (value : Value)
  | table (origin : Origin) (entries : List (String × Item))
  | elements (tables : List (List (String × Item)))

abbrev Table := List (String × Item)

mutual

def Item.toValue : Item → Value
  | .value value => value
  | .table _ entries => .table (entryValues entries)
  | .elements tables => .array (tableValues tables)

def entryValues : List (String × Item) → List (String × Value)
  | [] => []
  | (key, item) :: rest => (key, item.toValue) :: entryValues rest

def tableValues : List (List (String × Item)) → List Value
  | [] => []
  | entries :: rest => .table (entryValues entries) :: tableValues rest

end

namespace Table

def empty : Table := []

def toDocument (table : Table) : Document :=
  entryValues table

/-- Replace or add the item of a key, unless that is refused. -/
def alter (key : String) (change : Option Item → Option Item) : Table → Option Table
  | [] => do
      let item ← change none
      some [(key, item)]
  | (name, item) :: rest =>
      if name = key then do
        let item ← change (some item)
        some ((name, item) :: rest)
      else do
        let rest ← alter key change rest
        some ((name, item) :: rest)

/-- Change the last element of an array of tables. -/
def changeLast (change : Table → Option Table) : List Table → Option (List Table)
  | [] => none
  | [last] => do
      some [← change last]
  | table :: rest => do
      some (table :: (← changeLast change rest))

def add (key : String) (value : Value) (table : Table) : Option Table :=
  alter key
    (fun found =>
      match found with
      | none => some (.value value)
      | some _ => none)
    table

/--
Change the table at the end of a path of dotted keys.

Missing tables are made on the way. An opened table is finished for dotted
keys, and the last table of the path must itself come from dotted keys.
-/
def alterDotted (change : Table → Option Table) : List String → Table → Option Table
  | [], table => change table
  | key :: path, table =>
      alter key
        (fun found =>
          match found with
          | none => do
              some (.table .dotted (← alterDotted change path []))
          | some (.table origin entries) =>
              if origin = .opened ∨ (path = [] ∧ origin ≠ .dotted) then
                none
              else do
                some (.table origin (← alterDotted change path entries))
          | some (.elements tables) =>
              if path = [] then
                none
              else do
                some (.elements (← changeLast (alterDotted change path) tables))
          | some (.value _) => none)
        table

def assign (assignment : Assignment) (table : Table) : Option Table :=
  alterDotted (add assignment.key.last assignment.value) assignment.key.path table

def assignAll (assignments : List Assignment) (table : Table) : Option Table :=
  assignments.foldlM (fun table assignment => assign assignment table) table

/--
Change the table at the end of a path of headers.

Missing tables are made on the way; an array of tables stands for its last
element.
-/
def alterOpened (change : Table → Option Table) : List String → Table → Option Table
  | [], table => change table
  | key :: path, table =>
      alter key
        (fun found =>
          match found with
          | none => do
              some (.table .implied (← alterOpened change path []))
          | some (.table origin entries) => do
              some (.table origin (← alterOpened change path entries))
          | some (.elements tables) => do
              some (.elements (← changeLast (alterOpened change path) tables))
          | some (.value _) => none)
        table

/-- Open a table and carry out the assignments under its header. -/
def openTable (header : Header) (assignments : List Assignment) (table : Table) :
    Option Table :=
  alterOpened
    (alter header.key.last fun found =>
      match header.kind, found with
      | .table, none => do
          some (.table .opened (← assignAll assignments empty))
      | .table, some (.table .implied entries) => do
          some (.table .opened (← assignAll assignments entries))
      | .element, none => do
          some (.elements [← assignAll assignments empty])
      | .element, some (.elements tables) => do
          some (.elements (tables ++ [← assignAll assignments empty]))
      | _, some _ => none)
    header.key.path table

/-- The assignments up to the next header, and the statements from there on. -/
def splitAssignments : List Statement → List Assignment × List Statement
  | .assignment assignment :: rest =>
      let (assignments, others) := splitAssignments rest
      (assignment :: assignments, others)
  | statements => ([], statements)

theorem length_splitAssignments_le (statements : List Statement) :
    (splitAssignments statements).2.length ≤ statements.length := by
  fun_induction splitAssignments statements with
  | case1 assignment rest assignments others split inductionHypothesis =>
      rw [split] at inductionHypothesis
      exact Nat.le_succ_of_le inductionHypothesis
  | case2 =>
      exact Nat.le_refl _

/-- Carry out the sections of a file, each a header with its assignments. -/
def runSections (statements : List Statement) (table : Table) : Option Table :=
  match statements with
  | [] => some table
  | .assignment _ :: _ => none
  | .header header :: rest => do
      let table ← openTable header (splitAssignments rest).1 table
      runSections (splitAssignments rest).2 table
  termination_by statements.length
  decreasing_by
    have := length_splitAssignments_le rest
    simp only [List.length_cons]
    omega

/-- The table that statements build, unless two of them are in conflict. -/
def ofStatements? (statements : List Statement) : Option Table := do
  let table ← assignAll (splitAssignments statements).1 empty
  runSections (splitAssignments statements).2 table

end Table

end QueryPack.Toml
