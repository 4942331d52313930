import Mathlib.Algebra.Ring.Nat
import Mathlib.Data.List.SplitBy
import Mathlib.Data.List.Forall2
import QueryPack.Coverage
import QueryPack.FileSystem.Tree
import QueryPack.Proofs.RunStopping

namespace QueryPack

/-!
# Coverage rows partition the artifacts

Each row of a coverage table stands for one maximal run of neighbouring
artifacts of one language, and it counts the artifacts of this run by their
sources. That a language has a single row is not a law of the table: it holds
of what a run of the program writes, since a pack lists each language once and
a run writes the artifacts of a language one after the other.
-/

/-- Every artifact has one of the three sources. -/
theorem countP_source_add
    (artifacts : List Artifact) :
    (artifacts.countP fun artifact => artifact.source = .override) +
        (artifacts.countP fun artifact =>
          artifact.source = .categoryDefault) +
        (artifacts.countP fun artifact => artifact.source = .placeholder) =
      artifacts.length := by
  induction artifacts with
  | nil =>
      rfl
  | cons artifact rest inductionHypothesis =>
      simp only [List.countP_cons, List.length_cons]
      cases artifact.source <;> simp <;> omega

namespace Coverage

namespace Row

/-- What a row counts of a source. -/
def number (row : Row) : Provenance → Nat
  | .override => row.overrides
  | .categoryDefault => row.defaults
  | .placeholder => row.placeholders

/-- A row is that of a run of artifacts of one language, by their sources. -/
structure CountsRun
    (row : Row)
    (run : List Artifact) : Prop where
  run_ne_nil :
    run ≠ []
  language_eq :
    ∀ artifact ∈ run, artifact.language = ⟨row.language⟩
  number_eq :
    ∀ source,
      row.number source = run.countP fun artifact => artifact.source = source

theorem number_count
    (row : Row)
    (counted source : Provenance) :
    (row.count counted).number source =
      row.number source + if counted = source then 1 else 0 := by
  cases counted <;> cases source <;> rfl

@[simp]
theorem language_count
    (row : Row)
    (source : Provenance) :
    (row.count source).language = row.language := by
  cases source <;> rfl

namespace CountsRun

variable
    {row : Row}
    {run : List Artifact}
    {artifact : Artifact}

/-- A row that an artifact opens is that of the artifact alone. -/
theorem singleton
    (artifact : Artifact) :
    ((start artifact.language.name).count artifact.source).CountsRun
      [artifact] where
  run_ne_nil :=
    List.cons_ne_nil artifact []
  language_eq other isMember := by
    rw [List.mem_singleton] at isMember
    subst isMember
    rw [language_count, start]
  number_eq source := by
    have startsAtZero : (start artifact.language.name).number source = 0 := by
      cases source <;> rfl
    rw [number_count, startsAtZero, List.countP_singleton]
    simp

/-- A row that counts one more artifact is that of the longer run. -/
theorem cons
    (counts : row.CountsRun run)
    (sameLanguage : row.language = artifact.language.name) :
    (row.count artifact.source).CountsRun (artifact :: run) where
  run_ne_nil :=
    List.cons_ne_nil artifact run
  language_eq other isMember := by
    rw [language_count]
    rcases List.mem_cons.mp isMember with isArtifact | inRun
    · subst isArtifact
      rw [sameLanguage]
    · exact counts.language_eq other inRun
  number_eq source := by
    rw [number_count, counts.number_eq, List.countP_cons]
    simp

/-- The three counts of a row add up to its artifacts. -/
theorem total_eq
    (counts : row.CountsRun run) :
    row.total = run.length := by
  have overrides := counts.number_eq .override
  have defaults := counts.number_eq .categoryDefault
  have placeholders := counts.number_eq .placeholder
  simp only [number] at overrides defaults placeholders
  rw [total, overrides, defaults, placeholders]
  exact countP_source_add run

theorem total_pos
    (counts : row.CountsRun run) :
    0 < row.total := by
  rw [counts.total_eq]
  exact List.length_pos_of_ne_nil counts.run_ne_nil

/-- As many times as it counts, the language of a row is those of its run. -/
theorem replicate_language
    (counts : row.CountsRun run) :
    List.replicate row.total row.language =
      run.map fun artifact => artifact.language.name := by
  rw [counts.total_eq, eq_comm, List.eq_replicate_iff]
  refine ⟨List.length_map _, ?_⟩
  intro name isName
  obtain ⟨artifact, isMember, rfl⟩ := List.mem_map.mp isName
  rw [counts.language_eq artifact isMember]

end CountsRun

end Row

/-- The longest runs of neighbouring artifacts of one language. -/
def languageRuns (artifacts : List Artifact) : List (List Artifact) :=
  artifacts.splitBy fun first second => first.language = second.language

section Rows

variable
    {artifacts : List Artifact}
    {rows : List Row}
    {run : List Artifact}
    {runs : List (List Artifact)}

/-- Artifacts of one language are a single run. -/
theorem languageRuns_of_oneLanguage
    {language : Language}
    (notEmpty : run ≠ [])
    (oneLanguage : ∀ artifact ∈ run, artifact.language = language) :
    languageRuns run = [run] := by
  apply List.splitBy_of_isChain notEmpty
  apply List.Pairwise.isChain
  apply List.pairwise_of_forall_mem_list
  intro first isFirst second isSecond
  rw [oneLanguage first isFirst, oneLanguage second isSecond]
  exact decide_eq_true rfl

/-- A run ends where an artifact of another language follows. -/
theorem languageRuns_append
    {front back : List Artifact}
    (differ :
      ∀ last ∈ front.getLast?, ∀ next ∈ back.head?,
        last.language ≠ next.language) :
    languageRuns (front ++ back) = languageRuns front ++ languageRuns back := by
  apply List.splitBy_append
  intro last isLast next isNext
  exact decide_eq_false (differ last isLast next isNext)

/--
Runs that rows count, with no two neighbours of one language, are the longest
runs of the artifacts that they make up.
-/
theorem languageRuns_flatten
    (counts : List.Forall₂ Row.CountsRun rows runs)
    (neighbours :
      rows.IsChain fun row next => row.language ≠ next.language) :
    languageRuns runs.flatten = runs := by
  induction counts with
  | nil =>
      rfl
  | @cons row run rows runs countsRun countsOthers inductionHypothesis =>
      obtain ⟨differ, neighbours⟩ := List.isChain_cons.mp neighbours
      rw [List.flatten_cons, languageRuns_append,
        languageRuns_of_oneLanguage countsRun.run_ne_nil
          countsRun.language_eq,
        inductionHypothesis neighbours, List.singleton_append]
      intro last isLast next isNext sameLanguage
      cases countsOthers with
      | nil =>
          simp at isNext
      | @cons nextRow nextRun _ _ countsNext _ =>
          have inNextRun : next ∈ nextRun := by
            rw [List.flatten_cons,
              List.head?_append_of_ne_nil _ countsNext.run_ne_nil] at isNext
            exact List.mem_of_mem_head? isNext
          rw [countsRun.language_eq last (List.mem_of_mem_getLast? isLast),
            countsNext.language_eq next inNextRun] at sameLanguage
          exact differ nextRow rfl (Language.mk.inj sameLanguage)

/-- Rows count some runs that make up the artifacts, no two neighbours alike. -/
theorem exists_runs
    (artifacts : List Artifact) :
    ∃ runs,
      runs.flatten = artifacts ∧
        List.Forall₂ Row.CountsRun (Coverage.rows artifacts) runs ∧
        (Coverage.rows artifacts).IsChain fun row next =>
          row.language ≠ next.language := by
  induction artifacts with
  | nil =>
      exact ⟨[], rfl, .nil, .nil⟩
  | cons artifact rest inductionHypothesis =>
      obtain ⟨runs, rfl, counts, neighbours⟩ := inductionHypothesis
      rw [Coverage.rows]
      cases rowsShape : Coverage.rows runs.flatten with
      | nil =>
          rw [rowsShape, List.forall₂_nil_left_iff] at counts
          subst counts
          exact ⟨[[artifact]], rfl, .cons (.singleton artifact) .nil,
            .singleton _⟩
      | cons row rows =>
          rw [rowsShape] at counts neighbours
          obtain ⟨run, others, countsRun, countsOthers, rfl⟩ :=
            List.forall₂_cons_left_iff.mp counts
          dsimp only
          by_cases sameLanguage : row.language = artifact.language.name
          · rw [if_pos sameLanguage]
            refine ⟨(artifact :: run) :: others, rfl,
              .cons (countsRun.cons sameLanguage) countsOthers, ?_⟩
            rw [List.isChain_cons, Row.language_count]
            exact List.isChain_cons.mp neighbours
          · rw [if_neg sameLanguage]
            refine ⟨[artifact] :: run :: others, rfl,
              .cons (.singleton artifact) counts, ?_⟩
            refine .cons_cons ?_ neighbours
            rw [Row.language_count]
            exact Ne.symm sameLanguage

/-- The rows of artifacts count their longest runs, one row for each. -/
theorem rows_countRuns
    (artifacts : List Artifact) :
    List.Forall₂ Row.CountsRun (Coverage.rows artifacts)
      (languageRuns artifacts) := by
  obtain ⟨runs, rfl, counts, neighbours⟩ := exists_runs artifacts
  rw [languageRuns_flatten counts neighbours]
  exact counts

/-- A column adds up to the artifacts of its source. -/
theorem sum_number
    (counts : List.Forall₂ Row.CountsRun rows runs)
    (source : Provenance) :
    (rows.map fun row => row.number source).sum =
      runs.flatten.countP fun artifact => artifact.source = source := by
  induction counts with
  | nil =>
      rfl
  | cons countsRun _ inductionHypothesis =>
      rw [List.map_cons, List.sum_cons, List.flatten_cons,
        List.countP_append, inductionHypothesis, countsRun.number_eq]

/-- Rows tell the languages of the artifacts that they count. -/
theorem flatMap_replicate_language
    (counts : List.Forall₂ Row.CountsRun rows runs) :
    (rows.flatMap fun row => List.replicate row.total row.language) =
      runs.flatten.map fun artifact => artifact.language.name := by
  induction counts with
  | nil =>
      rfl
  | cons countsRun _ inductionHypothesis =>
      rw [List.flatMap_cons, List.flatten_cons, List.map_append,
        inductionHypothesis, countsRun.replicate_language]

theorem total_pos_of_mem
    (counts : List.Forall₂ Row.CountsRun rows runs) :
    ∀ row ∈ rows, 0 < row.total := by
  have positive :
      List.Forall₂ (fun row run => 0 < row.total ∧ Row.CountsRun row run)
        rows runs :=
    counts.imp fun _ _ countsRun => ⟨countsRun.total_pos, countsRun⟩
  exact ((List.forall₂_and_left rows runs).mp positive).1

theorem rows_eq_nil_iff :
    Coverage.rows artifacts = [] ↔ artifacts = [] := by
  have counts := rows_countRuns artifacts
  constructor
  · intro noRows
    rw [noRows, List.forall₂_nil_left_iff] at counts
    exact List.splitBy_eq_nil.mp counts
  · intro noArtifacts
    rw [noArtifacts]
    rfl

end Rows

section Languages

variable
    {part : Language → List Artifact}
    {languages : List Language}

/-- Artifacts that are listed language by language have a run for each. -/
theorem languageRuns_flatMap
    (notEmpty : ∀ language, part language ≠ [])
    (ofLanguage :
      ∀ language, ∀ artifact ∈ part language, artifact.language = language)
    (distinct : languages.Nodup) :
    languageRuns (languages.flatMap part) = languages.map part := by
  induction languages with
  | nil =>
      rfl
  | cons language rest inductionHypothesis =>
      obtain ⟨notLater, distinct⟩ := List.nodup_cons.mp distinct
      rw [List.flatMap_cons, List.map_cons, languageRuns_append,
        languageRuns_of_oneLanguage (notEmpty language)
          (ofLanguage language),
        inductionHypothesis distinct, List.singleton_append]
      intro last isLast next isNext sameLanguage
      obtain ⟨later, isLater, ofLater⟩ :=
        List.mem_flatMap.mp (List.mem_of_mem_head? isNext)
      have lastLanguage :=
        ofLanguage language last (List.mem_of_mem_getLast? isLast)
      have nextLanguage := ofLanguage later next ofLater
      rw [lastLanguage, nextLanguage] at sameLanguage
      exact notLater (sameLanguage ▸ isLater)

/-- Then each language has one row, which counts all of its artifacts. -/
theorem rows_flatMap
    (notEmpty : ∀ language, part language ≠ [])
    (ofLanguage :
      ∀ language, ∀ artifact ∈ part language, artifact.language = language)
    (distinct : languages.Nodup) :
    List.Forall₂
      (fun row language =>
        row.total = (part language).length ∧
          row.language = language.name)
      (Coverage.rows (languages.flatMap part)) languages := by
  have counts := rows_countRuns (languages.flatMap part)
  rw [languageRuns_flatMap notEmpty ofLanguage distinct,
    List.forall₂_map_right_iff] at counts
  apply counts.imp
  intro row language countsRun
  obtain ⟨artifact, isMember⟩ :=
    List.exists_mem_of_ne_nil _ countsRun.run_ne_nil
  have sameLanguage := countsRun.language_eq artifact isMember
  rw [ofLanguage language artifact isMember] at sameLanguage
  exact ⟨countsRun.total_eq, by rw [sameLanguage]⟩

end Languages

/--
Rows that partition artifacts: each row counts one longest run of neighbouring
artifacts of one language, and no artifact is left out or counted twice.
-/
structure PartitionsArtifacts
    (artifacts : List Artifact)
    (rows : List Row) : Prop where
  counts_runs :
    List.Forall₂ Row.CountsRun rows (languageRuns artifacts)
  neighbours_differ :
    rows.IsChain fun row next => row.language ≠ next.language
  total_pos :
    ∀ row ∈ rows, 0 < row.total
  languages_eq :
    (rows.flatMap fun row => List.replicate row.total row.language) =
      artifacts.map fun artifact => artifact.language.name

/-- The rows of any artifacts partition them, however these are arranged. -/
theorem rows_partition
    (artifacts : List Artifact) :
    PartitionsArtifacts artifacts (Coverage.rows artifacts) := by
  obtain ⟨runs, rfl, counts, neighbours⟩ := exists_runs artifacts
  exact
    { counts_runs := rows_countRuns runs.flatten
      neighbours_differ := neighbours
      total_pos := total_pos_of_mem counts
      languages_eq := flatMap_replicate_language counts }

end Coverage

/-- A table is never without text: its first line draws the top of it. -/
theorem Text.Table.render_ne_empty
    (table : Text.Table) :
    table.render ≠ "" := by
  rw [render, rule, String.intercalate_cons_of_ne_nil (by simp)]
  simp [String.append_assoc]

/-- The line of a table that shows a row: its language and its three counts. -/
def Coverage.Row.IsShownAs
    (row : Coverage.Row)
    (cells : List String) : Prop :=
  cells =
    [row.language, toString (row.number .override),
      toString (row.number .categoryDefault),
      toString (row.number .placeholder)]

/-- The rows of a report, its table and its text, told by its artifacts. -/
structure RunReport.IsCovered (report : RunReport) : Prop where
  partition :
    Coverage.PartitionsArtifacts report.artifacts
      (Coverage.rows report.artifacts)
  columns_eq :
    ∀ source,
      ((Coverage.rows report.artifacts).map fun row =>
          row.number source).sum =
        report.count source
  counts_eq :
    report.count .override + report.count .categoryDefault +
        report.count .placeholder =
      report.artifacts.length
  table_header :
    (Coverage.table (Coverage.rows report.artifacts)).header =
      ["Language", "Overrides", "Defaults", "Placeholders"]
  table_rows :
    List.Forall₂ Coverage.Row.IsShownAs (Coverage.rows report.artifacts)
      (Coverage.table (Coverage.rows report.artifacts)).rows
  text_eq :
    report.artifacts ≠ [] →
      report.coverage =
        (Coverage.table (Coverage.rows report.artifacts)).render
  text_eq_empty_iff :
    report.coverage = "" ↔ report.artifacts = []

theorem RunReport.isCovered
    (report : RunReport) :
    report.IsCovered where
  partition :=
    Coverage.rows_partition report.artifacts
  columns_eq source := by
    obtain ⟨runs, flatten, counts, _⟩ := Coverage.exists_runs report.artifacts
    rw [Coverage.sum_number counts, flatten, RunReport.count]
  counts_eq :=
    countP_source_add report.artifacts
  table_header :=
    rfl
  table_rows := by
    rw [Coverage.table, List.forall₂_map_right_iff, List.forall₂_same]
    exact fun _ _ => rfl
  text_eq notEmpty := by
    rw [RunReport.coverage, Coverage.render, if_neg]
    rw [List.isEmpty_iff, Coverage.rows_eq_nil_iff]
    exact notEmpty
  text_eq_empty_iff := by
    rw [RunReport.coverage, Coverage.render, ← Coverage.rows_eq_nil_iff]
    cases Coverage.rows report.artifacts with
    | nil =>
        simp
    | cons row rows =>
        simp [Text.Table.render_ne_empty]

/-- The artifacts of a finished run stand language by language. -/
theorem artifacts_eq_flatMap
    {root : Path}
    {languages : Languages}
    {book : QueryBook}
    {fileSystem : FileSystem}
    {report : RunReport}
    (finished :
      (writePack root languages book fileSystem).result = .ok report) :
    report.artifacts =
      languages.list.flatMap fun language =>
        (book.ofLanguage language).map (Artifact.ofQuery root) := by
  rw [artifacts_of_finished finished, QueryBook.queries, List.map_flatMap]

/--
The coverage rows of every report partition its artifacts, and its counts are
the sums of their columns. A run that succeeds over at least one category has
one row for each language, in order, and each row counts every category once.
-/
theorem coverage_partitionsReport
    (report : RunReport) :
    report.IsCovered ∧
      ∀ root languages book fileSystem,
        (writePack root languages book fileSystem).result = .ok report →
        0 < book.categories.size →
          (Coverage.rows report.artifacts).map Coverage.Row.language =
              languages.list.map Language.name ∧
            ∀ row ∈ Coverage.rows report.artifacts,
              row.total = book.categories.size := by
  refine ⟨report.isCovered, ?_⟩
  intro root languages book fileSystem finished listed
  have sizeOfPart (language : Language) :
      ((book.ofLanguage language).map (Artifact.ofQuery root)).length =
        book.categories.size := by
    rw [List.length_map, QueryBook.ofLanguage, List.length_map,
      Categories.list, List.length_map, Categories.size]
  have notEmpty (language : Language) :
      (book.ofLanguage language).map (Artifact.ofQuery root) ≠ [] := by
    rw [← List.length_pos_iff, sizeOfPart]
    exact listed
  have ofLanguage (language : Language) :
      ∀ artifact ∈ (book.ofLanguage language).map (Artifact.ofQuery root),
        artifact.language = language := by
    intro artifact isMember
    obtain ⟨query, isQuery, rfl⟩ := List.mem_map.mp isMember
    obtain ⟨category, _, rfl⟩ := List.mem_map.mp isQuery
    exact language_effective book language category
  have rowOfEach :=
    Coverage.rows_flatMap notEmpty ofLanguage languages.nodup
  rw [← artifacts_eq_flatMap finished] at rowOfEach
  simp only [sizeOfPart] at rowOfEach
  obtain ⟨totals, names⟩ := (List.forall₂_and_left _ _).mp rowOfEach
  refine ⟨?_, totals⟩
  rwa [← List.forall₂_eq_eq_eq, List.forall₂_map_left_iff,
    List.forall₂_map_right_iff]

/-- Two languages over two categories, with an override and a default. -/
theorem coverage_partitionsReport_mixed :
    let languages : Languages := .ofNames ["go", "rust"]
    let book : QueryBook :=
      ⟨.ofList [⟨⟨"go"⟩, ⟨"functions"⟩, "(func) @f"⟩],
        .ofEntries [⟨⟨"functions"⟩, ""⟩, ⟨⟨"comments"⟩, "(comment) @c"⟩]⟩
    ∃ report,
      (writePack ⟨"out"⟩ languages book .bare).result = .ok report ∧
        Coverage.rows report.artifacts =
          [⟨"go", 1, 1, 0⟩, ⟨"rust", 0, 1, 1⟩] ∧
        (Coverage.rows report.artifacts).map Coverage.Row.language =
          languages.list.map Language.name ∧
        ∀ row ∈ Coverage.rows report.artifacts,
          row.total = book.categories.size := by
  intro languages book
  have unstopped :
      (carryOut ⟨"out"⟩ (plan languages book) .bare).stopped? = none := by
    decide +kernel
  have finished := result_eq_ok_iff.mpr ⟨unstopped, rfl⟩
  have isListed : 0 < book.categories.size := by
    decide
  have oneRowEach :=
    (coverage_partitionsReport _).2 _ _ _ _ finished isListed
  refine ⟨_, finished, ?_, oneRowEach⟩
  rw [artifacts_of_finished finished]
  decide +kernel

/-- A language that comes back later has a second row. -/
example :
    Coverage.rows
        [⟨⟨"go"⟩, ⟨"a"⟩, ⟨"x"⟩, .override, 1⟩,
          ⟨⟨"rust"⟩, ⟨"a"⟩, ⟨"y"⟩, .placeholder, 1⟩,
          ⟨⟨"go"⟩, ⟨"b"⟩, ⟨"z"⟩, .override, 1⟩] =
      [⟨"go", 1, 0, 0⟩, ⟨"rust", 0, 0, 1⟩, ⟨"go", 1, 0, 0⟩] := by
  decide

end QueryPack
