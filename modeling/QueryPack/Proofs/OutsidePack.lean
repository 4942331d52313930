import QueryPack.Coverage
import QueryPack.Job
import QueryPack.Proofs.DigestStream
import QueryPack.SourceTable

namespace QueryPack

/-!
# Overrides outside the pack do not matter

A run asks for queries of its pack only. Overrides that agree on the pack make
the same plan, so nothing that a run does or reports tells them apart; only the
warnings of a job name what lies outside. Overrides that resolve a pair of the
pack differently are told apart by the stream that is hashed.
-/

/-- Overrides that hold the same queries for every pair of a pack. -/
def Overrides.AgreeOn
    (languages : Languages)
    (categories : Categories)
    (overrides other : Overrides) : Prop :=
  ∀ language ∈ languages.list, ∀ category ∈ categories.list,
    overrides.find? language category = other.find? language category

instance
    (languages : Languages)
    (categories : Categories)
    (overrides other : Overrides) :
    Decidable (overrides.AgreeOn languages categories other) :=
  inferInstanceAs <| Decidable <|
    ∀ language ∈ languages.list, ∀ category ∈ categories.list,
      overrides.find? language category = other.find? language category

section Agreeing

variable
    {languages : Languages}
    {categories : Categories}
    {overrides other : Overrides}

theorem effective_eq_of_agreeOn
    (agree : overrides.AgreeOn languages categories other)
    {language : Language}
    {category : Category}
    (isListed : language ∈ languages.list)
    (isListedCategory : category ∈ categories.list) :
    QueryBook.effective ⟨overrides, categories⟩ language category =
      QueryBook.effective ⟨other, categories⟩ language category := by
  simp only [QueryBook.effective, agree language isListed category
    isListedCategory]

theorem ofLanguage_eq_of_agreeOn
    (agree : overrides.AgreeOn languages categories other)
    {language : Language}
    (isListed : language ∈ languages.list) :
    QueryBook.ofLanguage ⟨overrides, categories⟩ language =
      QueryBook.ofLanguage ⟨other, categories⟩ language :=
  List.map_congr_left fun _ isListedCategory =>
    effective_eq_of_agreeOn agree isListed isListedCategory

/-- Agreeing overrides have the same steps to carry out. -/
theorem plan_eq_of_agreeOn
    (agree : overrides.AgreeOn languages categories other) :
    plan languages ⟨overrides, categories⟩ =
      plan languages ⟨other, categories⟩ := by
  rw [plan, plan]
  apply congrArg (Step.makeRoot :: ·)
  apply List.flatMap_congr
  intro language isListed
  rw [languagePlan, languagePlan, ofLanguage_eq_of_agreeOn agree isListed]

/-- A run is decided by its plan, whether or not it succeeds. -/
theorem writePack_eq_of_agreeOn
    (agree : overrides.AgreeOn languages categories other)
    (root : Path)
    (fileSystem : FileSystem) :
    writePack root languages ⟨overrides, categories⟩ fileSystem =
      writePack root languages ⟨other, categories⟩ fileSystem := by
  simp only [writePack, plan_eq_of_agreeOn agree]

theorem sourceTable_eq_of_agreeOn
    (agree : overrides.AgreeOn languages categories other) :
    QueryBook.sourceTable ⟨overrides, categories⟩ languages =
      QueryBook.sourceTable ⟨other, categories⟩ languages := by
  rw [QueryBook.sourceTable, QueryBook.sourceTable]
  congr 1
  apply List.map_congr_left
  intro language isListed
  rw [QueryBook.sourceRow, QueryBook.sourceRow,
    ofLanguage_eq_of_agreeOn agree isListed]

end Agreeing

section Resolving

variable
    {run other : FinishedRun}

theorem FinishedRun.digest_eq
    (run : FinishedRun) :
    run.report.digest = Text.hex (Digest.hash run.hashed) := by
  rw [run.report_eq]
  rfl

/-- The queries of a run fit if those of its pairs do. -/
theorem FinishedRun.written_fit
    (fit :
      ∀ language ∈ run.languages.list,
        ∀ category ∈ run.book.categories.list,
          (run.book.effective language category).FieldsFit) :
    ∀ query ∈ run.written, query.FieldsFit := by
  intro query isWritten
  rw [run.written_eq, QueryBook.queries, List.mem_flatMap] at isWritten
  obtain ⟨language, isListed, ofLanguage⟩ := isWritten
  obtain ⟨category, isListedCategory, rfl⟩ := List.mem_map.mp ofLanguage
  exact fit language isListed category isListedCategory

/-- Runs over the same pack that write the same write the same for each pair. -/
theorem FinishedRun.expression_eq_of_written
    (sameLanguages : run.languages = other.languages)
    (sameCategories : run.book.categories = other.book.categories)
    (sameWritten :
      run.written.map EffectiveQuery.withoutSource =
        other.written.map EffectiveQuery.withoutSource)
    {language : Language}
    {category : Category}
    (isListed : language ∈ run.languages.list)
    (isListedCategory : category ∈ run.book.categories.list) :
    (run.book.effective language category).expression =
      (other.book.effective language category).expression := by
  rw [run.written_eq, other.written_eq, map_withoutSource_queries,
    map_withoutSource_queries, ← sameLanguages, ← sameCategories,
    List.map_inj_left] at sameWritten
  have sameTriple :=
    sameWritten (language, category)
      (List.mem_product.mpr ⟨isListed, isListedCategory⟩)
  exact congrArg (·.2.2) sameTriple

end Resolving

/-- Runs of two jobs that differ in nothing but the warnings in front. -/
structure DifferInWarnings
    (job other : Job)
    (fileSystem : FileSystem) : Prop where
  result_eq :
    (job.run fileSystem).result = (other.run fileSystem).result
  fileSystem_eq :
    (job.run fileSystem).fileSystem = (other.run fileSystem).fileSystem
  events_eq :
    (job.run fileSystem).events = (other.run fileSystem).events
  notices_eq :
    ∃ shared,
      (job.run fileSystem).notices =
          job.strays.map .ignoredOverride ++ shared ∧
        (other.run fileSystem).notices =
          other.strays.map .ignoredOverride ++ shared

/-- A job adds nothing to its run but the warnings in front. -/
theorem differInWarnings_of_writePack_eq
    {job other : Job}
    {fileSystem : FileSystem}
    (sameOutcome :
      writePack job.root job.languages job.book fileSystem =
        writePack other.root other.languages other.book fileSystem) :
    DifferInWarnings job other fileSystem where
  result_eq := by
    simp only [Job.run, sameOutcome]
  fileSystem_eq := by
    simp only [Job.run, sameOutcome]
  events_eq := by
    simp only [Job.run, sameOutcome]
  notices_eq := by
    refine ⟨_, rfl, ?_⟩
    rw [sameOutcome]
    rfl

/--
Two overrides are told apart over a pack exactly by what they resolve in it.

If they agree on the pack, then every run, the table of sources and the
coverage are the same. If they resolve a pair of it differently, then finished
runs have hashed different streams.
-/
structure DecidedByPack
    (languages : Languages)
    (categories : Categories)
    (overrides other : Overrides) : Prop where
  outcome_eq :
    overrides.AgreeOn languages categories other →
      ∀ root fileSystem,
        writePack root languages ⟨overrides, categories⟩ fileSystem =
          writePack root languages ⟨other, categories⟩ fileSystem
  sourceTable_eq :
    overrides.AgreeOn languages categories other →
      QueryBook.sourceTable ⟨overrides, categories⟩ languages =
        QueryBook.sourceTable ⟨other, categories⟩ languages
  coverage_eq :
    overrides.AgreeOn languages categories other →
      ∀ root fileSystem report otherReport,
        (writePack root languages ⟨overrides, categories⟩
            fileSystem).result = .ok report →
        (writePack root languages ⟨other, categories⟩
            fileSystem).result = .ok otherReport →
          Coverage.rows report.artifacts =
            Coverage.rows otherReport.artifacts
  differInWarnings :
    overrides.AgreeOn languages categories other →
      ∀ root fileSystem,
        DifferInWarnings
          ⟨languages, categories, overrides, root⟩
          ⟨languages, categories, other, root⟩ fileSystem
  hashed_ne :
    (∀ language ∈ languages.list, ∀ category ∈ categories.list,
      (QueryBook.effective ⟨overrides, categories⟩ language
        category).FieldsFit) →
    (∀ language ∈ languages.list, ∀ category ∈ categories.list,
      (QueryBook.effective ⟨other, categories⟩ language
        category).FieldsFit) →
    ∀ language ∈ languages.list, ∀ category ∈ categories.list,
      (QueryBook.effective ⟨overrides, categories⟩ language
          category).expression ≠
        (QueryBook.effective ⟨other, categories⟩ language
          category).expression →
      ∀ run otherRun : FinishedRun,
        run.languages = languages →
        run.book = ⟨overrides, categories⟩ →
        otherRun.languages = languages →
        otherRun.book = ⟨other, categories⟩ →
          run.report.digest = Text.hex (Digest.hash run.hashed) ∧
            otherRun.report.digest =
              Text.hex (Digest.hash otherRun.hashed) ∧
            run.hashed ≠ otherRun.hashed

/-- What lies outside a pack never matters, and what lies in it always does. -/
theorem overrides_decidedByPack
    (languages : Languages)
    (categories : Categories)
    (overrides other : Overrides) :
    DecidedByPack languages categories overrides other where
  outcome_eq := writePack_eq_of_agreeOn
  sourceTable_eq := sourceTable_eq_of_agreeOn
  coverage_eq := by
    intro agree root fileSystem report otherReport finished otherFinished
    rw [writePack_eq_of_agreeOn agree, otherFinished] at finished
    cases finished
    rfl
  differInWarnings := by
    intro agree root fileSystem
    exact differInWarnings_of_writePack_eq
      (writePack_eq_of_agreeOn agree root fileSystem)
  hashed_ne := by
    rintro fit otherFit language isListed category isListedCategory different
      run otherRun rfl isBook sameLanguages isOtherBook
    refine ⟨run.digest_eq, otherRun.digest_eq, fun sameStream => ?_⟩
    -- A stream can be read back, so the same stream resolves each pair alike.
    have sameWritten :=
      Digest.map_withoutSource_eq_of_stream_eq
        (FinishedRun.written_fit (by rwa [isBook]))
        (FinishedRun.written_fit (by rwa [isOtherBook, sameLanguages]))
        sameStream
    apply different
    rw [← isBook, ← isOtherBook]
    exact FinishedRun.expression_eq_of_written sameLanguages.symm
      (by rw [isBook, isOtherBook]) sameWritten isListed
      (by rwa [isBook])

/--
Two definitions outside the pack change no run, although they are warned of;
one within the pack changes the stream that is hashed.
-/
theorem overrides_decidedByPack_extended :
    let languages : Languages := .ofNames ["go"]
    let categories : Categories := .ofNames ["functions"]
    let overrides : Overrides :=
      .ofList [⟨⟨"go"⟩, ⟨"functions"⟩, "(func) @f"⟩]
    let extended : Overrides :=
      .ofList
        [⟨⟨"go"⟩, ⟨"functions"⟩, "(func) @f"⟩,
          ⟨⟨"go"⟩, ⟨"rituals"⟩, "(rite) @r"⟩,
          ⟨⟨"cobol"⟩, ⟨"functions"⟩, "(paragraph) @f"⟩]
    let changed : Overrides :=
      .ofList [⟨⟨"go"⟩, ⟨"functions"⟩, "(method) @f"⟩]
    (extended.strays languages categories).length = 2 ∧
      writePack ⟨"out"⟩ languages ⟨overrides, categories⟩ .bare =
        writePack ⟨"out"⟩ languages ⟨extended, categories⟩ .bare ∧
      ∃ run otherRun : FinishedRun,
        run.book = ⟨overrides, categories⟩ ∧
          otherRun.book = ⟨changed, categories⟩ ∧
          run.hashed ≠ otherRun.hashed := by
  intro languages categories overrides extended changed
  have agree : overrides.AgreeOn languages categories extended := by
    decide +kernel
  have unstopped :
      (carryOut ⟨"out"⟩ (plan languages ⟨overrides, categories⟩)
        .bare).stopped? = none := by
    decide +kernel
  have otherUnstopped :
      (carryOut ⟨"out"⟩ (plan languages ⟨changed, categories⟩)
        .bare).stopped? = none := by
    decide +kernel
  let run : FinishedRun :=
    ⟨⟨"out"⟩, languages, ⟨overrides, categories⟩, .bare, _,
      result_eq_ok_iff.mpr ⟨unstopped, rfl⟩⟩
  let otherRun : FinishedRun :=
    ⟨⟨"out"⟩, languages, ⟨changed, categories⟩, .bare, _,
      result_eq_ok_iff.mpr ⟨otherUnstopped, rfl⟩⟩
  have decided :=
    overrides_decidedByPack languages categories overrides extended
  have distinguished :=
    overrides_decidedByPack languages categories overrides changed
  refine ⟨by decide +kernel, decided.outcome_eq agree _ _, run, otherRun,
    rfl, rfl, ?_⟩
  exact
    (distinguished.hashed_ne (by decide +kernel) (by decide +kernel) ⟨"go"⟩
      (by decide) ⟨"functions"⟩ (by decide) (by decide +kernel)
      run otherRun rfl rfl rfl rfl).2.2

end QueryPack
