import Mathlib.Data.List.Nodup
import QueryPack.Toml.Table

namespace QueryPack.Toml

/-!
# Sections of texts

A file may begin with texts under keys of its own and go on with sections: each
opens a table inside one and the same table and gives texts under keys. If no
key occurs twice in one place, the file builds exactly these texts, in order.
-/

/-- Texts under keys, in the order in which a file gives them. -/
abbrev Texts := List (String × String)

namespace Texts

def keys (texts : Texts) : List String :=
  texts.map Prod.fst

def assignments (texts : Texts) : List Assignment :=
  texts.map fun (key, text) => ⟨⟨[], key⟩, .string text⟩

def entries (texts : Texts) : Table :=
  texts.map fun (key, text) => (key, .value (.string text))

theorem keys_entries
    (texts : Texts) :
    texts.entries.map Prod.fst = texts.keys := by
  simp [entries, keys]

end Texts

/-- A section of a file: the name of the table that it opens, and its texts. -/
structure TextSection where
  name : String
  texts : Texts

namespace TextSection

def statements (table : String) (part : TextSection) : List Statement :=
  .header ⟨.table, ⟨[table], part.name⟩⟩ ::
    part.texts.assignments.map .assignment

def entry (part : TextSection) : String × Item :=
  (part.name, .table .opened part.texts.entries)

end TextSection

namespace Table

variable {key : String} {change : Option Item → Option Item} {front rest : Table}

/-- Entries under other keys stay in front of what is altered. -/
theorem alter_append
    (absent : key ∉ front.map Prod.fst) :
    alter key change (front ++ rest) =
      (alter key change rest).map (front ++ ·) := by
  induction front with
  | nil => simp
  | cons entry front inductionHypothesis =>
      obtain ⟨name, item⟩ := entry
      rw [List.map_cons, List.mem_cons, not_or] at absent
      rw [List.cons_append, alter, if_neg (Ne.symm absent.1),
        inductionHypothesis absent.2]
      cases alter key change rest <;> rfl

/-- A key that a table lacks is added at its end. -/
theorem alter_of_absent
    (absent : key ∉ front.map Prod.fst) :
    alter key change front =
      (change none).map fun item => front ++ [(key, item)] := by
  calc
    alter key change front = alter key change (front ++ []) := by
      rw [List.append_nil]
    _ = (alter key change []).map (front ++ ·) := alter_append absent
    _ = (change none).map fun item => front ++ [(key, item)] := by
      rw [alter]
      cases change none <;> rfl

theorem absent_append
    {other : String}
    {item : Item}
    (absent : key ∉ front.map Prod.fst)
    (different : key ≠ other) :
    key ∉ (front ++ [(other, item)]).map Prod.fst := by
  rw [List.map_append, List.mem_append, not_or]
  exact ⟨absent, List.not_mem_cons_of_ne_of_not_mem different List.not_mem_nil⟩

/-- Texts under new keys are added to a table one after the other. -/
theorem assignAll_assignments
    (texts : Texts)
    (table : Table)
    (distinct : texts.keys.Nodup)
    (fresh : ∀ key ∈ texts.keys, key ∉ table.map Prod.fst) :
    assignAll texts.assignments table = some (table ++ texts.entries) := by
  induction texts generalizing table with
  | nil => simp [assignAll, Texts.assignments, Texts.entries]
  | cons first texts inductionHypothesis =>
      obtain ⟨key, text⟩ := first
      obtain ⟨notLater, distinct⟩ := List.nodup_cons.mp distinct
      have added :
          assign ⟨⟨[], key⟩, .string text⟩ table =
            some (table ++ [(key, .value (.string text))]) := by
        rw [assign, alterDotted, add,
          alter_of_absent (fresh key List.mem_cons_self)]
        rfl
      have freshBehind :
          ∀ later ∈ Texts.keys texts,
            later ∉
              (table ++ [(key, Item.value (.string text))]).map Prod.fst :=
        fun later member =>
          absent_append (fresh later (List.mem_cons_of_mem _ member))
            (fun same => notLater (same ▸ member))
      have addedLater := inductionHypothesis _ distinct freshBehind
      rw [assignAll] at addedLater
      rw [assignAll, Texts.assignments, List.map_cons, List.foldlM_cons]
      simp only [added, Option.bind_eq_bind, Option.bind_some]
      rw [← Texts.assignments, addedLater, List.append_assoc]
      rfl

/-- A table in front, and behind it the tables that sections have opened in another one. -/
def withSections (table : String) (front opened : Table) : Table :=
  if opened.isEmpty then front else front ++ [(table, .table .implied opened)]

/-- A section adds its table to the ones that are open. -/
theorem openTable_withSections
    {table name : String}
    {front opened entries : Table}
    {assignments : List Assignment}
    (apart : table ∉ front.map Prod.fst)
    (fresh : name ∉ opened.map Prod.fst)
    (assigned : assignAll assignments empty = some entries) :
    openTable ⟨.table, ⟨[table], name⟩⟩ assignments
        (withSections table front opened) =
      some (withSections table front
        (opened ++ [(name, .table .opened entries)])) := by
  rw [openTable, alterOpened]
  cases opened with
  | nil =>
      simp only [withSections, List.isEmpty_nil, if_true]
      rw [alter_of_absent apart]
      simp [alterOpened, alter, assigned]
  | cons first opened =>
      simp only [withSections, List.isEmpty_cons, Bool.false_eq_true, if_false]
      rw [alter_append apart, alter, if_pos rfl]
      simp only [alterOpened]
      rw [alter_of_absent fresh]
      simp [assigned]

theorem splitAssignments_append
    (assignments : List Assignment)
    (statements : List Statement)
    (split : splitAssignments statements = ([], statements)) :
    splitAssignments (assignments.map .assignment ++ statements) =
      (assignments, statements) := by
  induction assignments with
  | nil => exact split
  | cons first assignments inductionHypothesis =>
      rw [List.map_cons, List.cons_append, splitAssignments,
        inductionHypothesis]

theorem splitAssignments_sections
    (table : String)
    (sections : List TextSection) :
    splitAssignments (sections.flatMap (TextSection.statements table)) =
      ([], sections.flatMap (TextSection.statements table)) := by
  cases sections <;> rfl

/-- Sections with new names add their tables in order. -/
theorem runSections_sections
    {table : String}
    {front : Table}
    (apart : table ∉ front.map Prod.fst)
    (sections : List TextSection)
    (opened : Table)
    (distinct : (sections.map TextSection.name).Nodup)
    (fresh :
      ∀ name ∈ sections.map TextSection.name, name ∉ opened.map Prod.fst)
    (textsDistinct : ∀ part ∈ sections, part.texts.keys.Nodup) :
    runSections (sections.flatMap (TextSection.statements table))
        (withSections table front opened) =
      some (withSections table front
        (opened ++ sections.map TextSection.entry)) := by
  induction sections generalizing opened with
  | nil =>
      rw [List.flatMap_nil, runSections, List.map_nil, List.append_nil]
  | cons part sections inductionHypothesis =>
      obtain ⟨notLater, distinct⟩ := List.nodup_cons.mp distinct
      have split :=
        splitAssignments_append part.texts.assignments _
          (splitAssignments_sections table sections)
      have assigned :
          assignAll part.texts.assignments empty =
            some part.texts.entries :=
        assignAll_assignments part.texts empty
          (textsDistinct part List.mem_cons_self)
          (fun _ _ => List.not_mem_nil)
      have openedNow :=
        openTable_withSections apart (fresh part.name List.mem_cons_self)
          assigned
      have freshBehind :
          ∀ name ∈ sections.map TextSection.name,
            name ∉ (opened ++ [part.entry]).map Prod.fst :=
        fun name member =>
          absent_append (fresh name (List.mem_cons_of_mem _ member))
            (fun same => notLater (same ▸ member))
      have openedLater :=
        inductionHypothesis (opened ++ [part.entry]) distinct freshBehind
          (fun later member =>
            textsDistinct later (List.mem_cons_of_mem _ member))
      rw [List.flatMap_cons, TextSection.statements, List.cons_append,
        runSections, split, openedNow]
      rw [List.append_assoc, List.singleton_append] at openedLater
      exact openedLater

/-- A file of texts and sections without repeated keys builds just these. -/
theorem ofStatements?_sections
    {table : String}
    {leading : Texts}
    {sections : List TextSection}
    (leadingDistinct : leading.keys.Nodup)
    (apart : table ∉ leading.keys)
    (distinct : (sections.map TextSection.name).Nodup)
    (textsDistinct : ∀ part ∈ sections, part.texts.keys.Nodup) :
    ofStatements?
        (leading.assignments.map .assignment ++
          sections.flatMap (TextSection.statements table)) =
      some (withSections table leading.entries
        (sections.map TextSection.entry)) := by
  have split :=
    splitAssignments_append leading.assignments _
      (splitAssignments_sections table sections)
  have assigned : assignAll leading.assignments empty = some leading.entries :=
    assignAll_assignments leading empty leadingDistinct
      (fun _ _ => List.not_mem_nil)
  rw [ofStatements?, split, assigned]
  rw [← Texts.keys_entries] at apart
  exact runSections_sections apart sections [] distinct
    (fun _ _ => List.not_mem_nil) textsDistinct

end Table

section Values

def Texts.values (texts : Texts) : List (String × Value) :=
  texts.map fun (key, text) => (key, .string text)

def TextSection.value (part : TextSection) : String × Value :=
  (part.name, .table part.texts.values)

theorem entryValues_eq_map
    (entries : Table) :
    entryValues entries = entries.map fun (key, item) => (key, item.toValue) := by
  induction entries with
  | nil => rw [entryValues, List.map_nil]
  | cons entry entries inductionHypothesis =>
      rw [entryValues, inductionHypothesis, List.map_cons]

theorem entryValues_entries
    (texts : Texts) :
    entryValues texts.entries = texts.values := by
  rw [entryValues_eq_map, Texts.entries, List.map_map]
  apply List.map_congr_left
  intro _ _
  simp only [Function.comp_apply, Item.toValue]

theorem entryValues_sections
    (sections : List TextSection) :
    entryValues (sections.map TextSection.entry) =
      sections.map TextSection.value := by
  rw [entryValues_eq_map, List.map_map]
  apply List.map_congr_left
  intro part _
  simp only [Function.comp_apply, TextSection.entry, Item.toValue,
    entryValues_entries, TextSection.value]

/-- As a document, the sections are under the key of their table, if there are any. -/
theorem toDocument_withSections
    (table : String)
    (leading : Texts)
    (sections : List TextSection) :
    (Table.withSections table leading.entries
        (sections.map TextSection.entry)).toDocument =
      leading.values ++
        if sections.isEmpty then
          []
        else
          [(table, .table (sections.map TextSection.value))] := by
  rw [Table.toDocument, Table.withSections, List.isEmpty_map]
  split
  next => rw [entryValues_entries, List.append_nil]
  next =>
    rw [entryValues_eq_map, List.map_append, ← entryValues_eq_map,
      entryValues_entries, List.map_singleton]
    simp only [Item.toValue, entryValues_sections]

end Values

end QueryPack.Toml
