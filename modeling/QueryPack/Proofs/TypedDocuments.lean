import QueryPack.Configuration.Document
import QueryPack.Proofs.DistinctKeys

namespace QueryPack

/-!
# Which documents are configurations

A document is a configuration if four places of it have the right type: the
output root, the table of overrides, the table of each language in it, and each
query in those. The configuration is then what these places hold, and nothing
else of the document matters. One value is taken for a table that is none: a
date in the place of a language stands for a table with one query.
-/

namespace Toml

namespace Value

def text? : Value → Option String
  | string text => some text
  | _ => none

def table? : Value → Option (List (String × Value))
  | table entries => some entries
  | _ => none

/-- The table that a value stands for where the queries of a language are expected. -/
def queryTable? : Value → Option (List (String × Value))
  | table entries => some entries
  | dateTime value => some [(dateTimeKey, .string value.text)]
  | _ => none

theorem text?_eq_some_iff
    {value : Value}
    {text : String} :
    value.text? = some text ↔ value = string text := by
  cases value <;> simp [text?]

theorem table?_eq_some_iff
    {value : Value}
    {entries : List (String × Value)} :
    value.table? = some entries ↔ value = table entries := by
  cases value <;> simp [table?]

end Value

namespace Document

variable
    (tableOf? : Value → Option (List (String × Value)))
    (document : Document)

/-- The overrides of a document have an entry for a language. -/
def GivesLanguage (language : String) (value : Value) : Prop :=
  ∃ entries,
    document.get? "overrides" = some (.table entries) ∧
      (language, value) ∈ entries

/--
A place of a document that matters for a configuration has the wrong type.

What counts as the table of a language is left open.
-/
inductive IllTyped : Prop
  | output {value : Value}
      (found : document.get? "output" = some value)
      (notText : value.text? = none)
  | overrides {value : Value}
      (found : document.get? "overrides" = some value)
      (notTable : value.table? = none)
  | language {language : String} {value : Value}
      (given : document.GivesLanguage language value)
      (notTable : tableOf? value = none)
  | query {language category : String} {value query : Value}
      {entries : List (String × Value)}
      (given : document.GivesLanguage language value)
      (isTable : tableOf? value = some entries)
      (member : (category, query) ∈ entries)
      (notText : query.text? = none)

/-- A configuration says what a document says in the places that matter. -/
structure SaysSame (config : Configuration) : Prop where
  output_iff :
    ∀ output,
      config.output? = some output ↔
        document.get? "output" = some (.string output)
  language_iff :
    ∀ language,
      (∃ queries, config.queries[language]? = some queries) ↔
        ∃ value, document.GivesLanguage language value
  query_iff :
    ∀ language category query,
      (∃ queries,
        config.queries[language]? = some queries ∧
          queries[category]? = some query) ↔
        ∃ value entries,
          document.GivesLanguage language value ∧
            tableOf? value = some entries ∧
            (category, .string query) ∈ entries

/-- A document says what one configuration at most says. -/
theorem SaysSame.unique
    {tableOf? : Value → Option (List (String × Value))}
    {document : Document}
    {config other : Configuration}
    (same : document.SaysSame tableOf? config)
    (otherSame : document.SaysSame tableOf? other) :
    config = other := by
  obtain ⟨output?, queries⟩ := config
  obtain ⟨otherOutput?, otherQueries⟩ := other
  have sameOutput : output? = otherOutput? :=
    Option.ext fun output =>
      (same.output_iff output).trans (otherSame.output_iff output).symm
  have sameQueries : queries = otherQueries := by
    apply Std.ExtTreeMap.ext_getElem?
    intro language
    have sameGiven :=
      (same.language_iff language).trans (otherSame.language_iff language).symm
    have sameQuery := fun category query =>
      (same.query_iff language category query).trans
        (otherSame.query_iff language category query).symm
    dsimp only at sameGiven sameQuery
    cases found : queries[language]? with
    | none =>
        rw [found] at sameGiven
        symm
        simpa [Option.eq_none_iff_forall_ne_some] using sameGiven
    | some first =>
        obtain ⟨second, foundOther⟩ := sameGiven.mp ⟨first, found⟩
        rw [foundOther, Option.some.injEq]
        apply Std.ExtTreeMap.ext_getElem?
        intro category
        apply Option.ext
        intro query
        simpa [found, foundOther] using sameQuery category query
  rw [sameOutput, sameQueries]

end Document

end Toml

section Collecting

variable {α : Type}

/-- What is read from the values of all entries, by key. -/
def collect? (read : Toml.Value → Option α) :
    List (String × Toml.Value) → Option (Std.ExtTreeMap String α)
  | [] => some ∅
  | (key, value) :: rest => do
      return (← collect? read rest).insert key (← read value)

variable
    {read : Toml.Value → Option α}
    {entries : List (String × Toml.Value)}

/-- Collecting fails at any value that cannot be read. -/
theorem collect?_eq_none_iff :
    collect? read entries = none ↔
      ∃ key value, (key, value) ∈ entries ∧ read value = none := by
  induction entries with
  | nil => simp [collect?]
  | cons entry entries inductionHypothesis =>
      obtain ⟨first, firstValue⟩ := entry
      have firstOrLater :
          collect? read ((first, firstValue) :: entries) = none ↔
            read firstValue = none ∨ collect? read entries = none := by
        rw [collect?]
        cases collect? read entries <;> cases read firstValue <;> simp
      rw [firstOrLater, inductionHypothesis]
      constructor
      · rintro (unread | ⟨key, value, member, unread⟩)
        · exact ⟨first, firstValue, List.mem_cons_self, unread⟩
        · exact ⟨key, value, List.mem_cons_of_mem _ member, unread⟩
      · rintro ⟨key, value, member, unread⟩
        rcases List.mem_cons.mp member with isFirst | member
        · obtain ⟨_, rfl⟩ := Prod.mk.inj isFirst
          exact Or.inl unread
        · exact Or.inr ⟨key, value, member, unread⟩

/-- Without repeated keys, each key holds what is read from its value. -/
theorem getElem?_of_collect?
    {map : Std.ExtTreeMap String α}
    (collected : collect? read entries = some map)
    (distinct : (entries.map Prod.fst).Nodup)
    {key : String}
    {item : α} :
    map[key]? = some item ↔
      ∃ value, (key, value) ∈ entries ∧ read value = some item := by
  induction entries generalizing map with
  | nil =>
      cases collected
      simp
  | cons entry entries inductionHypothesis =>
      obtain ⟨first, firstValue⟩ := entry
      obtain ⟨later, isLater, rest⟩ := Option.bind_eq_some_iff.mp collected
      obtain ⟨firstItem, isFirst, ⟨⟩⟩ := Option.bind_eq_some_iff.mp rest
      obtain ⟨notLater, distinct⟩ := List.nodup_cons.mp distinct
      rw [Std.ExtTreeMap.getElem?_insert]
      by_cases same : first = key
      · subst same
        have noneLater : ∀ value, (first, value) ∉ entries :=
          fun value member => notLater (List.mem_map.mpr ⟨_, member, rfl⟩)
        simp [noneLater, isFirst]
      · rw [if_neg (by simpa using same),
          inductionHypothesis isLater distinct]
        simp [Ne.symm same]

end Collecting

theorem queriesOfEntries?_eq_collect?
    (entries : List (String × Toml.Value)) :
    queriesOfEntries? entries = collect? Toml.Value.text? entries := by
  induction entries with
  | nil => rfl
  | cons entry entries inductionHypothesis =>
      obtain ⟨category, value⟩ := entry
      rw [collect?, ← inductionHypothesis]
      cases value with
      | string query => rfl
      | _ =>
          change none = _
          cases queriesOfEntries? entries <;> rfl

theorem queriesOfValue?_eq_collect?
    (value : Toml.Value) :
    queriesOfValue? value =
      value.queryTable?.bind (collect? Toml.Value.text?) := by
  cases value with
  | table entries => exact queriesOfEntries?_eq_collect? entries
  | _ => rfl

theorem queriesByLanguage?_eq_collect?
    (entries : List (String × Toml.Value)) :
    queriesByLanguage? entries = collect? queriesOfValue? entries := by
  induction entries with
  | nil => rfl
  | cons entry entries inductionHypothesis =>
      rw [queriesByLanguage?, collect?, inductionHypothesis]

theorem queriesOfValue?_eq_none_iff
    {value : Toml.Value} :
    queriesOfValue? value = none ↔
      value.queryTable? = none ∨
        ∃ entries category query,
          value.queryTable? = some entries ∧
            (category, query) ∈ entries ∧ query.text? = none := by
  rw [queriesOfValue?_eq_collect?]
  cases value.queryTable? with
  | none => simp
  | some entries => simp [collect?_eq_none_iff]

section Distinct

variable
    {value : Toml.Value}
    {document : Toml.Document}

theorem nodup_of_queryTable?
    (once : value.NamesOnce)
    {entries : List (String × Toml.Value)}
    (isTable : value.queryTable? = some entries) :
    (entries.map Prod.fst).Nodup := by
  cases once with
  | table distinct _ =>
      cases isTable
      exact distinct
  | dateTime =>
      cases isTable
      simp
  | _ => cases isTable

theorem namesOnce_of_get?
    (once : (Toml.Value.table document).NamesOnce)
    {key : String}
    (found : document.get? key = some value) :
    value.NamesOnce := by
  obtain ⟨front, rest, rfl, _⟩ := List.lookup_eq_some_iff.mp found
  cases once with
  | table _ each => exact each (key, value) (by simp)

end Distinct

namespace Configuration

variable
    {document other : Toml.Document}
    {config : Configuration}

theorem outputOfDocument?_eq_none_iff :
    outputOfDocument? document = none ↔
      ∃ value,
        document.get? "output" = some value ∧ value.text? = none := by
  unfold outputOfDocument?
  split
  next absent => simp [absent]
  next output found => simp [found, Toml.Value.text?]
  next value notText found =>
    simp only [found, true_iff]
    refine ⟨value, rfl, ?_⟩
    rw [Option.eq_none_iff_forall_ne_some]
    intro text isText
    exact notText text (Toml.Value.text?_eq_some_iff.mp isText)

theorem queriesOfDocument?_eq_none_iff :
    queriesOfDocument? document = none ↔
      (∃ value,
        document.get? "overrides" = some value ∧ value.table? = none) ∨
        ∃ language value,
          document.GivesLanguage language value ∧
            queriesOfValue? value = none := by
  unfold queriesOfDocument? Toml.Document.GivesLanguage
  cases found : document.get? "overrides" with
  | none => simp
  | some value =>
      cases value with
      | table entries =>
          dsimp only
          rw [queriesByLanguage?_eq_collect?, collect?_eq_none_iff]
          simp [Toml.Value.table?]
      | _ => simp [Toml.Value.table?]

/-- A document is no configuration exactly if it is ill-typed. -/
theorem ofDocument?_eq_none_iff :
    ofDocument? document = none ↔
      document.IllTyped Toml.Value.queryTable? := by
  have isNone :
      ofDocument? document = none ↔
        outputOfDocument? document = none ∨
          queriesOfDocument? document = none := by
    unfold ofDocument?
    cases outputOfDocument? document <;>
      cases queriesOfDocument? document <;> simp
  rw [isNone, outputOfDocument?_eq_none_iff, queriesOfDocument?_eq_none_iff]
  constructor
  · rintro (⟨value, found, notText⟩ | ⟨value, found, notTable⟩ |
      ⟨language, value, given, unread⟩)
    · exact .output found notText
    · exact .overrides found notTable
    · rcases queriesOfValue?_eq_none_iff.mp unread with
        notTable | ⟨entries, category, query, isTable, member, notText⟩
      · exact .language given notTable
      · exact .query given isTable member notText
  · rintro (⟨found, notText⟩ | ⟨found, notTable⟩ | ⟨given, notTable⟩ |
      ⟨given, isTable, member, notText⟩)
    · exact Or.inl ⟨_, found, notText⟩
    · exact Or.inr (Or.inl ⟨_, found, notTable⟩)
    · exact Or.inr (Or.inr
        ⟨_, _, given, queriesOfValue?_eq_none_iff.mpr (Or.inl notTable)⟩)
    · exact Or.inr (Or.inr
        ⟨_, _, given, queriesOfValue?_eq_none_iff.mpr
          (Or.inr ⟨_, _, _, isTable, member, notText⟩)⟩)

/-- What a document holds in the place of the output root. -/
theorem outputOfDocument?_eq_some
    {output? : Option String}
    (isOutput : outputOfDocument? document = some output?)
    (output : String) :
    output? = some output ↔
      document.get? "output" = some (.string output) := by
  unfold outputOfDocument? at isOutput
  split at isOutput
  next absent =>
    cases isOutput
    simp [absent]
  next found =>
    cases isOutput
    simp [found]
  next => cases isOutput

/-- What a document holds for each language. -/
theorem queriesOfDocument?_eq_some
    (once : (Toml.Value.table document).NamesOnce)
    {map : Std.ExtTreeMap String CategoryQueries}
    (areQueries : queriesOfDocument? document = some map)
    (language : String)
    (queries : CategoryQueries) :
    map[language]? = some queries ↔
      ∃ value,
        document.GivesLanguage language value ∧
          queriesOfValue? value = some queries := by
  unfold queriesOfDocument? at areQueries
  unfold Toml.Document.GivesLanguage
  split at areQueries
  next absent =>
    cases areQueries
    simp [absent]
  next entries found =>
    rw [queriesByLanguage?_eq_collect?] at areQueries
    have distinct : (entries.map Prod.fst).Nodup := by
      cases namesOnce_of_get? once found with
      | table distinct _ => exact distinct
    rw [getElem?_of_collect? areQueries distinct]
    simp [found]
  next => cases areQueries

/-- What the value of a language holds for each category. -/
theorem queriesOfValue?_eq_some
    {value : Toml.Value}
    (once : value.NamesOnce)
    {queries : CategoryQueries}
    (areQueries : queriesOfValue? value = some queries)
    (category query : String) :
    queries[category]? = some query ↔
      ∃ entries,
        value.queryTable? = some entries ∧
          (category, .string query) ∈ entries := by
  rw [queriesOfValue?_eq_collect?] at areQueries
  obtain ⟨entries, isTable, collected⟩ :=
    Option.bind_eq_some_iff.mp areQueries
  rw [getElem?_of_collect? collected (nodup_of_queryTable? once isTable)]
  simp [isTable, Toml.Value.text?_eq_some_iff]

theorem saysSame_of_ofDocument?
    (once : (Toml.Value.table document).NamesOnce)
    (isConfig : ofDocument? document = some config) :
    document.SaysSame Toml.Value.queryTable? config := by
  obtain ⟨output?, isOutput, rest⟩ := Option.bind_eq_some_iff.mp isConfig
  obtain ⟨map, areQueries, ⟨⟩⟩ := Option.bind_eq_some_iff.mp rest
  have holds := queriesOfDocument?_eq_some once areQueries
  -- Since the whole was read, the value of every language was.
  have exists_queries
      {language : String}
      {value : Toml.Value}
      (given : document.GivesLanguage language value) :
      ∃ queries, queriesOfValue? value = some queries := by
    apply Option.ne_none_iff_exists'.mp
    intro unread
    rw [queriesOfDocument?_eq_none_iff.mpr (Or.inr ⟨_, _, given, unread⟩)]
      at areQueries
    cases areQueries
  have valueOnce
      {language : String}
      {value : Toml.Value}
      (given : document.GivesLanguage language value) :
      value.NamesOnce := by
    obtain ⟨entries, found, member⟩ := given
    cases namesOnce_of_get? once found with
    | table _ each => exact each _ member
  refine
    { output_iff := outputOfDocument?_eq_some isOutput
      language_iff := fun language => ?_
      query_iff := fun language category query => ?_ }
  · constructor
    · rintro ⟨queries, found⟩
      obtain ⟨value, given, _⟩ := (holds language queries).mp found
      exact ⟨value, given⟩
    · rintro ⟨value, given⟩
      obtain ⟨queries, areGiven⟩ := exists_queries given
      exact ⟨queries, (holds language queries).mpr ⟨value, given, areGiven⟩⟩
  · constructor
    · rintro ⟨queries, found, isQuery⟩
      obtain ⟨value, given, areGiven⟩ := (holds language queries).mp found
      obtain ⟨entries, isTable, member⟩ :=
        (queriesOfValue?_eq_some (valueOnce given) areGiven category
          query).mp isQuery
      exact ⟨value, entries, given, isTable, member⟩
    · rintro ⟨value, entries, given, isTable, member⟩
      obtain ⟨queries, areGiven⟩ := exists_queries given
      exact ⟨queries, (holds language queries).mpr ⟨value, given, areGiven⟩,
        (queriesOfValue?_eq_some (valueOnce given) areGiven category
          query).mpr ⟨entries, isTable, member⟩⟩

/-- A well-typed document is the one configuration that says the same. -/
theorem ofDocument?_eq_some_iff
    (once : (Toml.Value.table document).NamesOnce) :
    ofDocument? document = some config ↔
      ¬ document.IllTyped Toml.Value.queryTable? ∧
        document.SaysSame Toml.Value.queryTable? config := by
  rw [← ofDocument?_eq_none_iff]
  constructor
  · intro isConfig
    exact ⟨by simp [isConfig], saysSame_of_ofDocument? once isConfig⟩
  · rintro ⟨wellTyped, same⟩
    obtain ⟨found, isFound⟩ := Option.ne_none_iff_exists'.mp wellTyped
    rw [isFound, (saysSame_of_ofDocument? once isFound).unique same]

/-- A document is taken for what its two known keys hold. -/
theorem ofDocument?_congr
    (sameOutput : other.get? "output" = document.get? "output")
    (sameOverrides : other.get? "overrides" = document.get? "overrides") :
    ofDocument? other = ofDocument? document := by
  unfold ofDocument? outputOfDocument? queriesOfDocument?
  rw [sameOutput, sameOverrides]

end Configuration

end QueryPack
