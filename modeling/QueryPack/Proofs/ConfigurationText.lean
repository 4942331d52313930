import QueryPack.Configuration.Document
import QueryPack.Proofs.StatementLines
import QueryPack.Proofs.TextSections

namespace QueryPack

/-!
# Configurations are read back

A written configuration is a file of texts and sections: the output root under a
key of its own, and a section for each language. The keys of a map do not
repeat, so the text gives back exactly the configuration that it was written
for, whatever its keys and queries are.
-/

section Maps

variable {α : Type}

/-- Insert entries into an empty map, the last one first. -/
def insertAll (entries : List (String × α)) : Std.ExtTreeMap String α :=
  entries.foldr (fun entry map => map.insert entry.1 entry.2) ∅

/-- Without repeated keys, a map holds the entries that were inserted. -/
theorem getElem?_insertAll_eq_some_iff
    {entries : List (String × α)}
    {key : String}
    {value : α}
    (distinct : (entries.map Prod.fst).Nodup) :
    (insertAll entries)[key]? = some value ↔ (key, value) ∈ entries := by
  induction entries with
  | nil => simp [insertAll]
  | cons entry entries inductionHypothesis =>
      obtain ⟨first, firstValue⟩ := entry
      obtain ⟨notLater, distinct⟩ := List.nodup_cons.mp distinct
      have later := inductionHypothesis distinct
      rw [insertAll] at later
      rw [insertAll, List.foldr_cons, Std.ExtTreeMap.getElem?_insert,
        List.mem_cons, Prod.mk.injEq]
      by_cases same : first = key
      · subst same
        have noneLater : (first, value) ∉ entries :=
          fun member => notLater (List.mem_map.mpr ⟨_, member, rfl⟩)
        simp [noneLater, eq_comm]
      · rw [if_neg (by simpa using same), later]
        simp [Ne.symm same]

theorem nodup_keys_toList
    (map : Std.ExtTreeMap String α) :
    (map.toList.map Prod.fst).Nodup := by
  rw [Std.ExtTreeMap.map_fst_toList_eq_keys]
  exact Std.ExtTreeMap.nodup_keys

/-- Inserting the entries of a map gives the map. -/
theorem insertAll_toList
    (map : Std.ExtTreeMap String α) :
    insertAll map.toList = map := by
  apply Std.ExtTreeMap.ext_getElem?
  intro key
  apply Option.ext
  intro value
  rw [getElem?_insertAll_eq_some_iff (nodup_keys_toList map),
    Std.ExtTreeMap.mem_toList_iff_getElem?_eq_some]

end Maps

/-- A table of texts is read as the queries under its keys. -/
theorem queriesOfEntries?_values
    (texts : Toml.Texts) :
    queriesOfEntries? texts.values = some (insertAll texts) := by
  induction texts with
  | nil => rfl
  | cons first texts inductionHypothesis =>
      rw [Toml.Texts.values] at inductionHypothesis
      rw [Toml.Texts.values, List.map_cons, queriesOfEntries?,
        inductionHypothesis]
      rfl

/-- Sections of texts are read as queries by language. -/
theorem queriesByLanguage?_sections
    (sections : List Toml.TextSection) :
    queriesByLanguage? (sections.map Toml.TextSection.value) =
      some (insertAll
        (sections.map fun part => (part.name, insertAll part.texts))) := by
  induction sections with
  | nil => rfl
  | cons part sections inductionHypothesis =>
      rw [List.map_cons, Toml.TextSection.value, queriesByLanguage?,
        inductionHypothesis, queriesOfValue?, queriesOfEntries?_values]
      rfl

namespace Configuration

/-- The texts that a written configuration begins with. -/
def leadingTexts (config : Configuration) : Toml.Texts :=
  (config.output?.map fun output => ("output", output)).toList

/-- The sections of a written configuration, one for each language. -/
def languageSections (config : Configuration) : List Toml.TextSection :=
  config.queries.toList.map fun (language, queries) =>
    ⟨language, queries.toList⟩

/-- The table that holds the sections. -/
def sectionTable : String := "overrides"

def statements (config : Configuration) : List Toml.Statement :=
  config.leadingTexts.assignments.map .assignment ++
    config.languageSections.flatMap
      (Toml.TextSection.statements sectionTable)

section Text

open Toml (StandsFor)

/-- The lines of a language are its section. -/
theorem standsFor_languageLines
    (language : String)
    (queries : CategoryQueries) :
    StandsFor (languageLines language queries)
      (Toml.TextSection.statements sectionTable
        ⟨language, queries.toList⟩) := by
  have opening :
      "[overrides.".toList = '[' :: Toml.writeKey sectionTable ++ ['.'] := by
    decide
  have header :
      StandsFor ("[overrides.".toList ++ Toml.writeKey language ++ [']', '\n'])
        [.header ⟨.table, ⟨[sectionTable], language⟩⟩] := by
    rw [opening]
    simpa using StandsFor.headerLine sectionTable language
  have assignments :
      StandsFor
        (queries.toList.flatMap fun entry =>
          assignmentLine (Toml.writeKey entry.1) entry.2)
        (queries.toList.map fun entry =>
          .assignment ⟨⟨[], entry.1⟩, .string entry.2⟩) := by
    apply StandsFor.flatMap
    intro entry
    exact StandsFor.assignmentLine entry.1 entry.2
  have lines :
      languageLines language queries =
        "[overrides.".toList ++ Toml.writeKey language ++ [']', '\n'] ++
          queries.toList.flatMap fun entry =>
            assignmentLine (Toml.writeKey entry.1) entry.2 := by
    unfold languageLines
    rfl
  have statements :
      Toml.TextSection.statements sectionTable ⟨language, queries.toList⟩ =
        [.header ⟨.table, ⟨[sectionTable], language⟩⟩] ++
          queries.toList.map fun entry =>
            .assignment ⟨⟨[], entry.1⟩, .string entry.2⟩ := by
    rw [Toml.TextSection.statements, Toml.Texts.assignments, List.map_map]
    rfl
  rw [lines, statements]
  exact header.append assignments

/-- The text of a configuration stands for its statements. -/
theorem standsFor_text
    (config : Configuration) :
    StandsFor config.text.toList config.statements := by
  have outputKey : "output".toList = Toml.writeKey "output" := by
    decide
  have leading :
      List.Forall₂ StandsFor
        (config.output?.map (assignmentLine "output".toList)).toList
        (config.leadingTexts.assignments.map
          fun assignment => [.assignment assignment]) := by
    rw [outputKey, leadingTexts]
    cases config.output? with
    | none => exact .nil
    | some output =>
        exact .cons (StandsFor.assignmentLine "output" output) .nil
  have sections :
      List.Forall₂ StandsFor
        (config.queries.toList.map
          fun entry => languageLines entry.1 entry.2)
        (config.languageSections.map
          (Toml.TextSection.statements sectionTable)) := by
    rw [languageSections, List.map_map, List.forall₂_map_left_iff,
      List.forall₂_map_right_iff, List.forall₂_same]
    exact fun entry _ => standsFor_languageLines entry.1 entry.2
  have standing := StandsFor.intercalate (List.rel_append leading sections)
  have sameStatements :
      ((config.leadingTexts.assignments.map
            fun assignment => [Toml.Statement.assignment assignment]) ++
          config.languageSections.map
            (Toml.TextSection.statements sectionTable)).flatten =
        config.statements := by
    rw [List.flatten_append, ← List.flatMap_def, ← List.flatMap_def,
      ← List.map_eq_flatMap, statements]
  rw [text, String.toList_ofList, ← sameStatements]
  exact standing

end Text

section Document

theorem nodup_keys_leadingTexts
    (config : Configuration) :
    config.leadingTexts.keys.Nodup := by
  rw [leadingTexts]
  cases config.output? <;> simp [Toml.Texts.keys]

theorem sectionTable_not_mem_leadingTexts
    (config : Configuration) :
    sectionTable ∉ config.leadingTexts.keys := by
  rw [leadingTexts]
  cases config.output? <;> simp [Toml.Texts.keys, sectionTable]

theorem nodup_names_languageSections
    (config : Configuration) :
    (config.languageSections.map Toml.TextSection.name).Nodup := by
  rw [languageSections, List.map_map]
  exact nodup_keys_toList config.queries

theorem nodup_keys_of_mem_languageSections
    {config : Configuration}
    {part : Toml.TextSection}
    (member : part ∈ config.languageSections) :
    part.texts.keys.Nodup := by
  obtain ⟨⟨language, queries⟩, _, rfl⟩ := List.mem_map.mp member
  exact nodup_keys_toList queries

/-- The document that a written configuration makes. -/
def document (config : Configuration) : Toml.Document :=
  config.leadingTexts.values ++
    if config.languageSections.isEmpty then
      []
    else
      [(sectionTable,
        .table (config.languageSections.map Toml.TextSection.value))]

theorem document?_text
    (config : Configuration) :
    Toml.document? config.text = some config.document := by
  have built :=
    Toml.Table.ofStatements?_sections
      (nodup_keys_leadingTexts config)
      (sectionTable_not_mem_leadingTexts config)
      (nodup_names_languageSections config)
      (fun _ => nodup_keys_of_mem_languageSections)
  rw [Toml.document?, (standsFor_text config).statements?_eq]
  simp only [Option.bind_eq_bind, Option.bind_some, statements, built,
    Toml.toDocument_withSections, document]

/-- The sections of a configuration are read as its queries. -/
theorem queriesByLanguage?_languageSections
    (config : Configuration) :
    queriesByLanguage?
        (config.languageSections.map Toml.TextSection.value) =
      some config.queries := by
  have sameEntries :
      (config.languageSections.map
          fun part => (part.name, insertAll part.texts)) =
        config.queries.toList := by
    rw [languageSections, List.map_map]
    calc
      config.queries.toList.map _ = config.queries.toList.map id := by
        apply List.map_congr_left
        rintro ⟨language, queries⟩ _
        simp only [Function.comp_apply, insertAll_toList, id]
      _ = config.queries.toList := List.map_id _
  rw [queriesByLanguage?_sections, sameEntries, insertAll_toList]

theorem outputOfDocument?_document
    (config : Configuration) :
    outputOfDocument? config.document = some config.output? := by
  have found :
      config.document.get? "output" =
        config.output?.map Toml.Value.string := by
    rw [document, leadingTexts, Toml.Document.get?]
    cases config.output? with
    | some output => rfl
    | none =>
        rw [Option.map_none, Option.toList_none, Toml.Texts.values,
          List.map_nil, List.nil_append]
        split <;> rfl
  rw [outputOfDocument?, found]
  cases config.output? <;> rfl

theorem queriesOfDocument?_document
    (config : Configuration) :
    queriesOfDocument? config.document = some config.queries := by
  have found :
      config.document.get? "overrides" =
        if config.languageSections.isEmpty then
          none
        else
          some (.table
            (config.languageSections.map Toml.TextSection.value)) := by
    rw [document, leadingTexts, Toml.Document.get?]
    cases config.output? <;> split <;> rfl
  have queriesRead := queriesByLanguage?_languageSections config
  rw [queriesOfDocument?, found]
  cases sections : config.languageSections with
  | nil =>
      rw [sections] at queriesRead
      exact queriesRead
  | cons part sections =>
      rw [sections] at queriesRead
      exact queriesRead

/-- The text of a configuration is well-formed and stands for it. -/
theorem ofText?_text
    (config : Configuration) :
    ofText? config.text = some config := by
  rw [ofText?, document?_text, Option.bind_eq_bind, Option.bind_some,
    ofDocument?, outputOfDocument?_document, queriesOfDocument?_document]
  rfl

end Document

end Configuration

end QueryPack
