import QueryPack.Proofs.TextSections
import QueryPack.Toml.Document

namespace QueryPack.Toml

/-!
# No table of a document names a key twice

Tables grow by one operation only: the item of a key is replaced where it
stands, or a new key is added at the end. So keys never repeat, in the table of
a whole file, in those below it, and in inline tables at any depth.
-/

/-- A value in which no table names a key twice. -/
inductive Value.NamesOnce : Value → Prop
  | string (text : String) : NamesOnce (.string text)
  | integer (value : Int) : NamesOnce (.integer value)
  | float (text : String) : NamesOnce (.float text)
  | boolean (value : Bool) : NamesOnce (.boolean value)
  | dateTime (value : DateTime) : NamesOnce (.dateTime value)
  | array {items : List Value}
      (each : ∀ item ∈ items, NamesOnce item) :
      NamesOnce (.array items)
  | table {entries : List (String × Value)}
      (distinct : (entries.map Prod.fst).Nodup)
      (each : ∀ entry ∈ entries, NamesOnce entry.2) :
      NamesOnce (.table entries)

/-- The same of an item of a table under construction. -/
inductive Item.NamesOnce : Item → Prop
  | value {value : Value}
      (once : value.NamesOnce) :
      NamesOnce (.value value)
  | table {origin : Origin} {entries : List (String × Item)}
      (distinct : (entries.map Prod.fst).Nodup)
      (each : ∀ entry ∈ entries, NamesOnce entry.2) :
      NamesOnce (.table origin entries)
  | elements {tables : List (List (String × Item))}
      (distinct : ∀ table ∈ tables, (table.map Prod.fst).Nodup)
      (each : ∀ table ∈ tables, ∀ entry ∈ table, NamesOnce entry.2) :
      NamesOnce (.elements tables)

/-- A table under construction in which no table names a key twice. -/
structure Table.NamesOnce (table : Table) : Prop where
  distinct :
    (table.map Prod.fst).Nodup
  each :
    ∀ entry ∈ table, entry.2.NamesOnce

theorem Item.namesOnce_table_iff
    {origin : Origin}
    {entries : Table} :
    (Item.table origin entries).NamesOnce ↔ entries.NamesOnce := by
  constructor
  · rintro (_ | ⟨distinct, each⟩)
    exact ⟨distinct, each⟩
  · exact fun once => .table once.distinct once.each

theorem Item.namesOnce_elements_iff
    {tables : List Table} :
    (Item.elements tables).NamesOnce ↔ ∀ table ∈ tables, table.NamesOnce := by
  constructor
  · rintro (_ | _ | ⟨distinct, each⟩) table member
    exact ⟨distinct table member, each table member⟩
  · exact fun once =>
      .elements (fun table member => (once table member).distinct)
        (fun table member => (once table member).each)

section Values

theorem tableValues_eq_map
    (tables : List Table) :
    tableValues tables =
      tables.map fun table => .table (entryValues table) := by
  induction tables with
  | nil => rfl
  | cons table tables inductionHypothesis =>
      rw [tableValues, inductionHypothesis, List.map_cons]

theorem keys_entryValues
    (entries : Table) :
    (entryValues entries).map Prod.fst = entries.map Prod.fst := by
  rw [entryValues_eq_map, List.map_map]
  rfl

/-- The entries of a table under construction become values with the same keys. -/
theorem namesOnce_entryValues
    {entries : Table}
    (distinct : (entries.map Prod.fst).Nodup)
    (each : ∀ entry ∈ entries, entry.2.toValue.NamesOnce) :
    (Value.table (entryValues entries)).NamesOnce := by
  refine .table (by rwa [keys_entryValues]) ?_
  rw [entryValues_eq_map, List.forall_mem_map]
  exact each

theorem Item.NamesOnce.toValue
    {item : Item}
    (once : item.NamesOnce) :
    item.toValue.NamesOnce := by
  induction once with
  | value once => exact once
  | table distinct _ inductionHypothesis =>
      exact namesOnce_entryValues distinct inductionHypothesis
  | elements distinct _ inductionHypothesis =>
      refine .array ?_
      rw [tableValues_eq_map, List.forall_mem_map]
      exact fun table member =>
        namesOnce_entryValues (distinct table member)
          (inductionHypothesis table member)

theorem Table.NamesOnce.toDocument
    {table : Table}
    (once : table.NamesOnce) :
    (Value.table table.toDocument).NamesOnce :=
  namesOnce_entryValues once.distinct
    (fun entry member => (once.each entry member).toValue)

end Values

namespace Table

/-- The item of a key is replaced where it stands, or added with a new key. -/
theorem alter_cases
    {key : String}
    {change : Option Item → Option Item}
    {table after : Table}
    (altered : alter key change table = some after) :
    (∃ front item changed rest,
      table = front ++ (key, item) :: rest ∧
        change (some item) = some changed ∧
        after = front ++ (key, changed) :: rest) ∨
      ∃ item,
        key ∉ table.map Prod.fst ∧
          change none = some item ∧
          after = table ++ [(key, item)] := by
  induction table generalizing after with
  | nil =>
      obtain ⟨item, changed, ⟨⟩⟩ := Option.bind_eq_some_iff.mp altered
      exact Or.inr ⟨item, by simp, changed, rfl⟩
  | cons entry table inductionHypothesis =>
      obtain ⟨name, item⟩ := entry
      unfold alter at altered
      split at altered
      next same =>
        subst same
        obtain ⟨changed, isChanged, ⟨⟩⟩ := Option.bind_eq_some_iff.mp altered
        exact Or.inl ⟨[], item, changed, table, rfl, isChanged, rfl⟩
      next different =>
        obtain ⟨later, isLater, ⟨⟩⟩ := Option.bind_eq_some_iff.mp altered
        rcases inductionHypothesis isLater with
          ⟨front, former, changed, rest, rfl, isChanged, rfl⟩ |
            ⟨added, isNew, isAdded, rfl⟩
        · exact Or.inl
            ⟨(name, item) :: front, former, changed, rest, rfl, isChanged,
              rfl⟩
        · exact Or.inr
            ⟨added, by simp [Ne.symm different, isNew], isAdded, rfl⟩

/-- A change of one table that never makes it name a key twice. -/
def KeepsKeysDistinct (change : Table → Option Table) : Prop :=
  ∀ table after,
    table.NamesOnce → change table = some after → after.NamesOnce

/-- Keys stay distinct if what a key holds becomes nothing that repeats one. -/
theorem NamesOnce.of_alter
    {key : String}
    {change : Option Item → Option Item}
    {table after : Table}
    (once : table.NamesOnce)
    (altered : alter key change table = some after)
    (changedOnce :
      ∀ found item,
        (∀ former, found = some former → former.NamesOnce) →
        change found = some item →
        item.NamesOnce) :
    after.NamesOnce := by
  obtain ⟨distinct, each⟩ := once
  rcases alter_cases altered with
    ⟨front, item, changed, rest, rfl, isChanged, rfl⟩ |
      ⟨item, isNew, isAdded, rfl⟩
  -- A replaced item leaves the list of keys as it was; a new one adds its key.
  · have itemOnce : item.NamesOnce := each (key, item) (by simp)
    refine ⟨by simpa using distinct, ?_⟩
    intro entry member
    rw [List.mem_append, List.mem_cons] at member
    rcases member with inFront | rfl | inRest
    · exact each entry (by simp [inFront])
    · exact changedOnce (some item) changed
        (by rintro _ ⟨⟩; exact itemOnce) isChanged
    · exact each entry (by simp [inRest])
  · constructor
    · rw [List.map_append, List.nodup_append]
      refine ⟨distinct, by simp, ?_⟩
      intro name isName other isOther same
      subst same
      exact isNew (by simpa [List.mem_singleton.mp isOther] using isName)
    · intro entry member
      rcases List.mem_append.mp member with isOld | isLast
      · exact each entry isOld
      · rw [List.mem_singleton.mp isLast]
        exact changedOnce none item (by rintro _ ⟨⟩) isAdded

/-- Only the last table of an array is changed. -/
theorem changeLast_cases
    {change : Table → Option Table}
    {tables after : List Table}
    (changed : changeLast change tables = some after) :
    ∃ front last later,
      tables = front ++ [last] ∧
        change last = some later ∧
        after = front ++ [later] := by
  fun_induction changeLast change tables generalizing after with
  | case1 => cases changed
  | case2 last =>
      obtain ⟨later, isChanged, ⟨⟩⟩ := Option.bind_eq_some_iff.mp changed
      exact ⟨[], last, later, rfl, isChanged, rfl⟩
  | case3 table tables _ inductionHypothesis =>
      obtain ⟨rest, isRest, ⟨⟩⟩ := Option.bind_eq_some_iff.mp changed
      obtain ⟨front, last, later, rfl, isChanged, rfl⟩ :=
        inductionHypothesis isRest
      exact ⟨table :: front, last, later, rfl, isChanged, rfl⟩

theorem namesOnce_empty : empty.NamesOnce :=
  ⟨List.nodup_nil, fun _ member => nomatch member⟩

theorem namesOnce_of_changeLast
    {change : Table → Option Table}
    {tables after : List Table}
    (keeps : KeepsKeysDistinct change)
    (once : ∀ table ∈ tables, table.NamesOnce)
    (changed : changeLast change tables = some after) :
    ∀ table ∈ after, table.NamesOnce := by
  obtain ⟨front, last, later, rfl, isChanged, rfl⟩ := changeLast_cases changed
  intro table member
  rcases List.mem_append.mp member with inFront | isLast
  · exact once table (by simp [inFront])
  · rw [List.mem_singleton.mp isLast]
    exact keeps last later (once last (by simp)) isChanged

theorem keepsKeysDistinct_add
    {value : Value}
    (once : value.NamesOnce)
    (key : String) :
    KeepsKeysDistinct (add key value) := by
  intro table after tableOnce added
  refine tableOnce.of_alter added ?_
  rintro (_ | former) item _ isItem
  · cases isItem
    exact .value once
  · cases isItem

/-- How the item of a key becomes one that leads on to a changed table. -/
inductive LeadsOn (change : Table → Option Table) : Option Item → Item → Prop
  | made {origin : Origin} {after : Table}
      (changed : change empty = some after) :
      LeadsOn change none (.table origin after)
  | entered {origin : Origin} {entries after : Table}
      (changed : change entries = some after) :
      LeadsOn change (some (.table origin entries)) (.table origin after)
  | enteredLast {tables after : List Table}
      (changed : changeLast change tables = some after) :
      LeadsOn change (some (.elements tables)) (.elements after)

theorem LeadsOn.namesOnce
    {change : Table → Option Table}
    {found : Option Item}
    {item : Item}
    (leads : LeadsOn change found item)
    (keeps : KeepsKeysDistinct change)
    (formerOnce : ∀ former, found = some former → former.NamesOnce) :
    item.NamesOnce := by
  cases leads with
  | made changed =>
      exact Item.namesOnce_table_iff.mpr
        (keeps _ _ namesOnce_empty changed)
  | entered changed =>
      have entriesOnce := Item.namesOnce_table_iff.mp (formerOnce _ rfl)
      exact Item.namesOnce_table_iff.mpr (keeps _ _ entriesOnce changed)
  | enteredLast changed =>
      have tablesOnce := Item.namesOnce_elements_iff.mp (formerOnce _ rfl)
      exact Item.namesOnce_elements_iff.mpr
        (namesOnce_of_changeLast keeps tablesOnce changed)

theorem keepsKeysDistinct_alterDotted
    {change : Table → Option Table}
    (keeps : KeepsKeysDistinct change)
    (path : List String) :
    KeepsKeysDistinct (alterDotted change path) := by
  induction path with
  | nil => exact keeps
  | cons key path inductionHypothesis =>
      intro table after once altered
      refine once.of_alter altered ?_
      intro found item formerOnce isItem
      refine LeadsOn.namesOnce ?_ inductionHypothesis formerOnce
      split at isItem
      next =>
        obtain ⟨made, isMade, ⟨⟩⟩ := Option.bind_eq_some_iff.mp isItem
        exact .made isMade
      next =>
        split at isItem
        next => cases isItem
        next =>
          obtain ⟨made, isMade, ⟨⟩⟩ := Option.bind_eq_some_iff.mp isItem
          exact .entered isMade
      next =>
        split at isItem
        next => cases isItem
        next =>
          obtain ⟨made, isMade, ⟨⟩⟩ := Option.bind_eq_some_iff.mp isItem
          exact .enteredLast isMade
      next => cases isItem

theorem keepsKeysDistinct_alterOpened
    {change : Table → Option Table}
    (keeps : KeepsKeysDistinct change)
    (path : List String) :
    KeepsKeysDistinct (alterOpened change path) := by
  induction path with
  | nil => exact keeps
  | cons key path inductionHypothesis =>
      intro table after once altered
      refine once.of_alter altered ?_
      intro found item formerOnce isItem
      refine LeadsOn.namesOnce ?_ inductionHypothesis formerOnce
      split at isItem
      next =>
        obtain ⟨made, isMade, ⟨⟩⟩ := Option.bind_eq_some_iff.mp isItem
        exact .made isMade
      next =>
        obtain ⟨made, isMade, ⟨⟩⟩ := Option.bind_eq_some_iff.mp isItem
        exact .entered isMade
      next =>
        obtain ⟨made, isMade, ⟨⟩⟩ := Option.bind_eq_some_iff.mp isItem
        exact .enteredLast isMade
      next => cases isItem

theorem keepsKeysDistinct_assignAll
    {assignments : List Assignment}
    (once : ∀ assignment ∈ assignments, assignment.value.NamesOnce) :
    KeepsKeysDistinct (assignAll assignments) := by
  induction assignments with
  | nil =>
      rintro table after tableOnce ⟨⟩
      exact tableOnce
  | cons assignment assignments inductionHypothesis =>
      rw [List.forall_mem_cons] at once
      intro table after tableOnce assigned
      obtain ⟨next, isNext, isAfter⟩ := Option.bind_eq_some_iff.mp assigned
      exact inductionHypothesis once.2 next after
        (keepsKeysDistinct_alterDotted
          (keepsKeysDistinct_add once.1 assignment.key.last)
          assignment.key.path table next tableOnce isNext)
        isAfter

theorem keepsKeysDistinct_openTable
    (header : Header)
    {assignments : List Assignment}
    (once : ∀ assignment ∈ assignments, assignment.value.NamesOnce) :
    KeepsKeysDistinct (openTable header assignments) := by
  have assigns := keepsKeysDistinct_assignAll once
  refine keepsKeysDistinct_alterOpened ?_ header.key.path
  intro table after tableOnce altered
  refine tableOnce.of_alter altered ?_
  intro found item formerOnce isItem
  split at isItem
  next =>
    obtain ⟨made, isMade, ⟨⟩⟩ := Option.bind_eq_some_iff.mp isItem
    exact Item.namesOnce_table_iff.mpr (assigns _ _ namesOnce_empty isMade)
  next =>
    have entriesOnce := Item.namesOnce_table_iff.mp (formerOnce _ rfl)
    obtain ⟨made, isMade, ⟨⟩⟩ := Option.bind_eq_some_iff.mp isItem
    exact Item.namesOnce_table_iff.mpr (assigns _ _ entriesOnce isMade)
  next =>
    obtain ⟨made, isMade, ⟨⟩⟩ := Option.bind_eq_some_iff.mp isItem
    have madeOnce := assigns _ _ namesOnce_empty isMade
    exact Item.namesOnce_elements_iff.mpr (by simpa using madeOnce)
  next =>
    have tablesOnce := Item.namesOnce_elements_iff.mp (formerOnce _ rfl)
    obtain ⟨made, isMade, ⟨⟩⟩ := Option.bind_eq_some_iff.mp isItem
    have madeOnce := assigns _ _ namesOnce_empty isMade
    refine Item.namesOnce_elements_iff.mpr ?_
    rw [List.forall_mem_append]
    exact ⟨tablesOnce, by simpa using madeOnce⟩
  next => cases isItem

/-- Statements that assign values in which no table names a key twice. -/
def AssignOnce (statements : List Statement) : Prop :=
  ∀ assignment,
    .assignment assignment ∈ statements → assignment.value.NamesOnce

theorem AssignOnce.of_splitAssignments
    {statements : List Statement}
    (once : AssignOnce statements) :
    (∀ assignment ∈ (splitAssignments statements).1,
        assignment.value.NamesOnce) ∧
      AssignOnce (splitAssignments statements).2 := by
  fun_induction Table.splitAssignments statements with
  | case1 assignment rest assignments others split inductionHypothesis =>
      rw [split] at inductionHypothesis
      obtain ⟨assignmentsOnce, othersOnce⟩ :=
        inductionHypothesis
          (fun later member => once later (List.mem_cons_of_mem _ member))
      rw [List.forall_mem_cons]
      exact ⟨⟨once assignment List.mem_cons_self, assignmentsOnce⟩, othersOnce⟩
  | case2 =>
      exact ⟨by simp, once⟩

theorem keepsKeysDistinct_runSections
    {statements : List Statement}
    (once : AssignOnce statements) :
    KeepsKeysDistinct (runSections statements) := by
  intro table after tableOnce ran
  fun_induction runSections statements table with
  | case1 =>
      cases ran
      exact tableOnce
  | case2 => cases ran
  | case3 table header rest inductionHypothesis =>
      have restOnce : AssignOnce rest :=
        fun later member => once later (List.mem_cons_of_mem _ member)
      obtain ⟨assignmentsOnce, othersOnce⟩ := restOnce.of_splitAssignments
      obtain ⟨opened, isOpened, isAfter⟩ := Option.bind_eq_some_iff.mp ran
      exact inductionHypothesis opened othersOnce
        (keepsKeysDistinct_openTable header assignmentsOnce table opened
          tableOnce isOpened)
        isAfter

theorem namesOnce_of_ofStatements?
    {statements : List Statement}
    {table : Table}
    (once : AssignOnce statements)
    (built : ofStatements? statements = some table) :
    table.NamesOnce := by
  obtain ⟨assignmentsOnce, othersOnce⟩ := once.of_splitAssignments
  obtain ⟨first, isFirst, isTable⟩ := Option.bind_eq_some_iff.mp built
  exact keepsKeysDistinct_runSections othersOnce first table
    (keepsKeysDistinct_assignAll assignmentsOnce empty first namesOnce_empty
      isFirst)
    isTable

end Table

section Reading

/-- A reader of nothing but values in which no table names a key twice. -/
def ReadsOnce (readValue : Reader Value) : Prop :=
  ∀ text value rest,
    readValue text = some (value, rest) → value.NamesOnce

/-- What holds of every part that a step reads holds of all of them. -/
theorem forall_of_readParts
    {step : Reader (Option α)}
    {property : α → Prop}
    (eachPart :
      ∀ text part rest, step text = some (some part, rest) → property part)
    {text rest : List Char}
    {parts : List α}
    (read : readParts step text = some (parts, rest)) :
    ∀ part ∈ parts, property part := by
  fun_induction readParts step text generalizing parts with
  | case1 => cases read
  | case2 =>
      cases read
      exact fun _ member => nomatch member
  | case3 text part later isPart shorter inductionHypothesis =>
      obtain ⟨⟨others, last⟩, isOthers, ⟨⟩⟩ := Option.map_eq_some_iff.mp read
      rw [List.forall_mem_cons]
      exact ⟨eachPart _ _ _ isPart, inductionHypothesis isOthers⟩
  | case4 => cases read

theorem namesOnce_of_bareValue?
    {token : List Char}
    {value : Value}
    (isValue : bareValue? token = some value) :
    value.NamesOnce := by
  unfold bareValue? at isValue
  split at isValue
  next =>
    cases isValue
    exact .boolean true
  next =>
    split at isValue
    next =>
      cases isValue
      exact .boolean false
    next =>
      split at isValue
      next =>
        cases isValue
        exact .float _
      next =>
        rcases Option.or_eq_some_iff.mp isValue with isInteger | ⟨_, isDate⟩
        · obtain ⟨number, _, rfl⟩ := Option.map_eq_some_iff.mp isInteger
          exact .integer number
        · obtain ⟨date, _, rfl⟩ := Option.map_eq_some_iff.mp isDate
          exact .dateTime date

theorem readsOnce_readBare : ReadsOnce readBare := by
  intro text value rest read
  unfold readBare at read
  dsimp only at read
  split at read
  next =>
    split at read
    next =>
      cases read
      exact .dateTime _
    next =>
      obtain ⟨both, _, ⟨⟩⟩ := Option.bind_eq_some_iff.mp read
      exact .dateTime both
  next =>
    obtain ⟨found, isFound, ⟨⟩⟩ := Option.bind_eq_some_iff.mp read
    exact namesOnce_of_bareValue? isFound

section Nested

variable {readValue : Reader Value}

theorem namesOnce_of_readAssignment
    (once : ReadsOnce readValue)
    {text rest : List Char}
    {assignment : Assignment}
    (read : readAssignment readValue text = some (assignment, rest)) :
    assignment.value.NamesOnce := by
  obtain ⟨⟨key, afterKey⟩, _, read⟩ := Option.bind_eq_some_iff.mp read
  dsimp only at read
  split at read
  next =>
    obtain ⟨⟨value, afterValue⟩, isValue, ⟨⟩⟩ :=
      Option.bind_eq_some_iff.mp read
    exact once _ _ _ isValue
  next => cases read

theorem namesOnce_of_readArrayItem
    (once : ReadsOnce readValue)
    {text rest : List Char}
    {item : Value}
    (read : readArrayItem readValue text = some (some item, rest)) :
    item.NamesOnce := by
  unfold readArrayItem at read
  split at read
  next => cases read
  next =>
    obtain ⟨⟨value, afterValue⟩, isValue, read⟩ :=
      Option.bind_eq_some_iff.mp read
    dsimp only at read
    split at read
    next =>
      cases read
      exact once _ _ _ isValue
    next =>
      cases read
      exact once _ _ _ isValue
    next => cases read

theorem readsOnce_readArray
    (once : ReadsOnce readValue) :
    ReadsOnce (readArray readValue) := by
  intro text value rest read
  obtain ⟨⟨items, afterItems⟩, areItems, read⟩ :=
    Option.bind_eq_some_iff.mp read
  dsimp only at read
  split at read
  next =>
    cases read
    exact .array
      (forall_of_readParts (fun _ _ _ => namesOnce_of_readArrayItem once)
        areItems)
  next => cases read

theorem namesOnce_of_readInlineEntry
    (once : ReadsOnce readValue)
    {text rest : List Char}
    {assignment : Assignment}
    (read : readInlineEntry readValue text = some (some assignment, rest)) :
    assignment.value.NamesOnce := by
  unfold readInlineEntry at read
  split at read
  next =>
    obtain ⟨⟨found, afterFound⟩, isFound, ⟨⟩⟩ :=
      Option.bind_eq_some_iff.mp read
    exact namesOnce_of_readAssignment once isFound
  next => cases read

theorem readsOnce_readInlineTable
    (once : ReadsOnce readValue) :
    ReadsOnce (readInlineTable readValue) := by
  intro text value rest read
  unfold readInlineTable at read
  split at read
  next =>
    cases read
    exact Table.namesOnce_empty.toDocument
  next =>
    obtain ⟨⟨first, afterFirst⟩, isFirst, read⟩ :=
      Option.bind_eq_some_iff.mp read
    obtain ⟨⟨others, afterOthers⟩, areOthers, read⟩ :=
      Option.bind_eq_some_iff.mp read
    dsimp only at read
    split at read
    next =>
      obtain ⟨table, isTable, ⟨⟩⟩ := Option.bind_eq_some_iff.mp read
      have assignmentsOnce :
          ∀ assignment ∈ first :: others, assignment.value.NamesOnce :=
        List.forall_mem_cons.mpr
          ⟨namesOnce_of_readAssignment once isFirst,
            forall_of_readParts
              (fun _ _ _ => namesOnce_of_readInlineEntry once) areOthers⟩
      exact (Table.keepsKeysDistinct_assignAll assignmentsOnce _ _
        Table.namesOnce_empty isTable).toDocument
    next => cases read

end Nested

theorem readsOnce_readValue
    (depth : Nat) :
    ReadsOnce (readValue depth) := by
  -- Arrays and inline tables hold values that are read one level deeper.
  induction depth using Nat.strongRecOn with
  | ind depth inductionHypothesis =>
      intro text value rest read
      unfold readValue at read
      split at read
      next =>
        obtain ⟨_, _, ⟨⟩⟩ := Option.map_eq_some_iff.mp read
        exact .string _
      next =>
        obtain ⟨_, _, ⟨⟩⟩ := Option.map_eq_some_iff.mp read
        exact .string _
      next =>
        split at read
        next => cases read
        next lower =>
          exact readsOnce_readArray
            (inductionHypothesis lower (Nat.lt_succ_self lower)) _ _ _ read
      next =>
        split at read
        next => cases read
        next lower =>
          exact readsOnce_readInlineTable
            (inductionHypothesis lower (Nat.lt_succ_self lower)) _ _ _ read
      next => exact readsOnce_readBare _ _ _ read

theorem namesOnce_of_readStatement
    {text rest : List Char}
    {assignment : Assignment}
    (read :
      readStatement text = some (some (some (.assignment assignment)), rest)) :
    assignment.value.NamesOnce := by
  unfold readStatement at read
  split at read
  next => cases read
  next =>
    obtain ⟨_, _, ⟨⟩⟩ := Option.bind_eq_some_iff.mp read
  next =>
    split at read
    next => obtain ⟨_, _, ⟨⟩⟩ := Option.bind_eq_some_iff.mp read
    next =>
      obtain ⟨⟨found, afterFound⟩, isFound, read⟩ :=
        Option.bind_eq_some_iff.mp read
      obtain ⟨_, _, ⟨⟩⟩ := Option.bind_eq_some_iff.mp read
      exact namesOnce_of_readAssignment (readsOnce_readValue maxDepth) isFound

theorem assignOnce_of_statements?
    {text : List Char}
    {statements : List Statement}
    (read : statements? text = some statements) :
    Table.AssignOnce statements := by
  unfold statements? at read
  split at read
  next parts areParts =>
    cases read
    intro assignment member
    obtain ⟨part, isPart, isStatement⟩ := List.mem_filterMap.mp member
    have eachOnce :
        ∀ part ∈ parts,
          ∀ assignment,
            part = some (.assignment assignment) →
              assignment.value.NamesOnce := by
      refine forall_of_readParts ?_ areParts
      rintro _ _ _ isRead assignment rfl
      exact namesOnce_of_readStatement isRead
    exact eachOnce part isPart assignment isStatement
  next => cases read

end Reading

/-- A document that is read from a text names no key of a table twice. -/
theorem namesOnce_of_document?
    {text : String}
    {document : Document}
    (read : document? text = some document) :
    (Value.table document).NamesOnce := by
  obtain ⟨statements, areStatements, read⟩ := Option.bind_eq_some_iff.mp read
  obtain ⟨table, isTable, ⟨⟩⟩ := Option.bind_eq_some_iff.mp read
  exact (Table.namesOnce_of_ofStatements?
    (assignOnce_of_statements? areStatements) isTable).toDocument

/-- A key that is given again makes no document, and neither does a dotted one. -/
example :
    Toml.document? "a = 1\na = 2\n" = none ∧
      Toml.document? "a = 1\na.b = 2\n" = none := by
  constructor <;> rw [← Option.isNone_iff_eq_none] <;> decide +kernel

end QueryPack.Toml
