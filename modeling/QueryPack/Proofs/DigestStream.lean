import Mathlib.Algebra.Group.Nat.Defs
import Mathlib.Data.List.Nodup
import Mathlib.Data.List.ProdSigma
import QueryPack.FileSystem.Tree
import QueryPack.Proofs.RunStopping

namespace QueryPack

/-!
# The hashed stream tells what was written

The stream that a digest is taken over can be read back: every field says how
long it is. Two streams are therefore the same only if the same languages,
categories and expressions were written in the same order. Nothing else enters
the stream, neither the root nor what was there before nor where a query comes
from.
-/

/-- What is written of a query: everything but its source. -/
def EffectiveQuery.withoutSource
    (query : EffectiveQuery) : Language × Category × String :=
  (query.language, query.category, query.expression)

/-- The length of every field of a query can be told in eight bytes. -/
structure EffectiveQuery.FieldsFit (query : EffectiveQuery) : Prop where
  language_fits :
    query.language.name.utf8ByteSize < 2 ^ 64
  category_fits :
    query.category.name.utf8ByteSize < 2 ^ 64
  expression_fits :
    query.expression.utf8ByteSize < 2 ^ 64

instance (query : EffectiveQuery) : Decidable query.FieldsFit :=
  decidable_of_iff
    (query.language.name.utf8ByteSize < 2 ^ 64 ∧
      query.category.name.utf8ByteSize < 2 ^ 64 ∧
      query.expression.utf8ByteSize < 2 ^ 64)
    ⟨fun ⟨language_fits, category_fits, expression_fits⟩ =>
      ⟨language_fits, category_fits, expression_fits⟩,
      fun fits =>
        ⟨fits.language_fits, fits.category_fits, fits.expression_fits⟩⟩

namespace Digest

theorem length_littleEndian
    (count value : Nat) :
    (littleEndian count value).length = count := by
  induction count generalizing value with
  | zero =>
      rfl
  | succ count inductionHypothesis =>
      rw [littleEndian, List.length_cons, inductionHypothesis]

/-- Each byte of a number is its digit to the base 256. -/
theorem littleEndian_eq_ofFn
    (count value : Nat) :
    littleEndian count value =
      List.ofFn fun position : Fin count =>
        (value / 256 ^ position.val % 256).toUInt8 := by
  induction count generalizing value with
  | zero =>
      rfl
  | succ count inductionHypothesis =>
      rw [littleEndian, inductionHypothesis, List.ofFn_succ]
      simp [Nat.div_div_eq_div_mul, Nat.pow_succ, Nat.mul_comm]

/-- A frame is made of three fields, each behind its length in eight bytes. -/
theorem frame_eq
    (query : EffectiveQuery) :
    frame query =
      [query.language.name, query.category.name,
          query.expression].flatMap fun text =>
        (List.ofFn fun position : Fin 8 =>
            (text.toUTF8.size / 256 ^ position.val % 256).toUInt8) ++
          text.toUTF8.data.toList := by
  simp only [frame, field, littleEndian_eq_ofFn, List.flatMap_cons,
    List.flatMap_nil, List.append_nil, List.append_assoc]
  rfl

/-- A number can be told from its bytes if there are enough of them. -/
theorem littleEndian_injective
    {count value other : Nat}
    (fits : value < 256 ^ count)
    (otherFits : other < 256 ^ count)
    (same : littleEndian count value = littleEndian count other) :
    value = other := by
  induction count generalizing value other with
  | zero =>
      simp only [Nat.pow_zero, Nat.lt_one_iff] at fits otherFits
      rw [fits, otherFits]
  | succ count inductionHypothesis =>
      rw [littleEndian, littleEndian, List.cons.injEq] at same
      obtain ⟨sameLowest, sameRest⟩ := same
      rw [Nat.pow_succ] at fits otherFits
      have sameQuotient : value / 256 = other / 256 :=
        inductionHypothesis (Nat.div_lt_of_lt_mul (Nat.mul_comm _ _ ▸ fits))
          (Nat.div_lt_of_lt_mul (Nat.mul_comm _ _ ▸ otherFits)) sameRest
      have sameRemainder : value % 256 = other % 256 := by
        have sameByte := congrArg UInt8.toNat sameLowest
        simpa using sameByte
      omega

/-- A field at the front of bytes can be told from what follows it. -/
theorem field_append_injective
    {text other : String}
    {rest otherRest : List UInt8}
    (fits : text.utf8ByteSize < 2 ^ 64)
    (otherFits : other.utf8ByteSize < 2 ^ 64)
    (same : field text ++ rest = field other ++ otherRest) :
    text = other ∧ rest = otherRest := by
  simp only [field, List.append_assoc] at same
  obtain ⟨samePrefix, sameBytes⟩ :=
    List.append_inj same (by rw [length_littleEndian, length_littleEndian])
  have sameSize : text.utf8ByteSize = other.utf8ByteSize :=
    littleEndian_injective fits otherFits samePrefix
  obtain ⟨sameData, sameRest⟩ := List.append_inj sameBytes sameSize
  refine ⟨?_, sameRest⟩
  rw [← String.toByteArray_inj]
  exact ByteArray.ext (Array.toList_inj.mp sameData)

/-- A frame at the front of bytes can be told from what follows it. -/
theorem frame_append_injective
    {query other : EffectiveQuery}
    {rest otherRest : List UInt8}
    (fits : query.FieldsFit)
    (otherFits : other.FieldsFit)
    (same : frame query ++ rest = frame other ++ otherRest) :
    query.withoutSource = other.withoutSource ∧ rest = otherRest := by
  simp only [frame, List.append_assoc] at same
  obtain ⟨sameLanguage, same⟩ :=
    field_append_injective fits.language_fits otherFits.language_fits same
  obtain ⟨sameCategory, same⟩ :=
    field_append_injective fits.category_fits otherFits.category_fits same
  obtain ⟨sameExpression, sameRest⟩ :=
    field_append_injective fits.expression_fits otherFits.expression_fits
      same
  rcases query with ⟨⟨language⟩, ⟨category⟩, expression, source⟩
  rcases other with ⟨⟨otherLanguage⟩, ⟨otherCategory⟩, _, otherSource⟩
  simp_all [EffectiveQuery.withoutSource]

theorem frame_ne_nil
    (query : EffectiveQuery) :
    frame query ≠ [] := by
  simp [frame, field, littleEndian]

/-- The source of a query does not enter the stream. -/
theorem stream_congr
    {queries others : List EffectiveQuery}
    (same :
      queries.map EffectiveQuery.withoutSource =
        others.map EffectiveQuery.withoutSource) :
    stream queries = stream others := by
  have streamShape :
      ∀ queries,
        stream queries =
          (queries.map EffectiveQuery.withoutSource).flatMap
            fun (language, category, expression) =>
              field language.name ++ field category.name ++
                field expression := by
    intro queries
    rw [stream, List.flatMap_map]
    rfl
  rw [streamShape, streamShape, same]

/-- What was written can be told from the stream. -/
theorem map_withoutSource_eq_of_stream_eq
    {queries others : List EffectiveQuery}
    (fit : ∀ query ∈ queries, query.FieldsFit)
    (otherFit : ∀ query ∈ others, query.FieldsFit)
    (same : stream queries = stream others) :
    queries.map EffectiveQuery.withoutSource =
      others.map EffectiveQuery.withoutSource := by
  induction queries generalizing others with
  | nil =>
      cases others with
      | nil =>
          rfl
      | cons other others =>
          simp [stream, frame_ne_nil] at same
  | cons query queries inductionHypothesis =>
      cases others with
      | nil =>
          simp [stream, frame_ne_nil] at same
      | cons other others =>
          rw [stream, stream, List.flatMap_cons, List.flatMap_cons] at same
          obtain ⟨sameHead, sameStream⟩ :=
            frame_append_injective (fit query List.mem_cons_self)
              (otherFit other List.mem_cons_self) same
          rw [List.map_cons, List.map_cons, sameHead,
            inductionHypothesis
              (fun later member =>
                fit later (List.mem_cons_of_mem _ member))
              (fun later member =>
                otherFit later (List.mem_cons_of_mem _ member))
              sameStream]

end Digest

section Product

variable {α β : Type}

/-- The pairs with one second part have each first part once. -/
theorem map_fst_filter_product
    [DecidableEq β]
    (firsts : List α)
    {seconds : List β}
    {second : β}
    (nodup : seconds.Nodup)
    (member : second ∈ seconds) :
    ((firsts ×ˢ seconds).filter (·.2 = second)).map Prod.fst = firsts := by
  induction firsts with
  | nil =>
      rfl
  | cons first firsts inductionHypothesis =>
      have onlyOne : seconds.filter (· = second) = [second] := by
        rw [List.filter_eq, List.count_eq_one_of_mem nodup member]
        rfl
      rw [List.product_cons, List.filter_append, List.map_append,
        inductionHypothesis, List.filter_map]
      simp [Function.comp_def, onlyOne]

/-- The pairs with one first part have each second part once. -/
theorem map_snd_filter_product
    [DecidableEq α]
    {firsts : List α}
    (seconds : List β)
    {first : α}
    (nodup : firsts.Nodup)
    (member : first ∈ firsts) :
    ((firsts ×ˢ seconds).filter (·.1 = first)).map Prod.snd = seconds := by
  induction firsts with
  | nil =>
      cases member
  | cons head firsts inductionHypothesis =>
      rw [List.product_cons, List.filter_append, List.map_append]
      obtain ⟨notLater, nodupLater⟩ := List.nodup_cons.mp nodup
      rcases List.mem_cons.mp member with isHead | later
      · subst isHead
        have noneLater :
            (firsts ×ˢ seconds).filter (·.1 = first) = [] := by
          rw [List.filter_eq_nil_iff]
          rintro ⟨other, second⟩ isPair sameFirst
          have isLater := (List.mem_product.mp isPair).1
          exact notLater (of_decide_eq_true sameFirst ▸ isLater)
        rw [noneLater, List.filter_map]
        simp [Function.comp_def]
      · have different : head ≠ first := fun same => notLater (same ▸ later)
        rw [inductionHypothesis nodupLater later, List.filter_map]
        simp [Function.comp_def, different]

/-- Lists without repetitions can be told from their pairs. -/
theorem eq_of_product_eq
    [DecidableEq α]
    [DecidableEq β]
    {firsts otherFirsts : List α}
    {seconds otherSeconds : List β}
    (nodupFirsts : firsts.Nodup)
    (nodupOtherFirsts : otherFirsts.Nodup)
    (nodupSeconds : seconds.Nodup)
    (nodupOtherSeconds : otherSeconds.Nodup)
    (same : firsts ×ˢ seconds = otherFirsts ×ˢ otherSeconds)
    (nonempty : firsts ×ˢ seconds ≠ []) :
    firsts = otherFirsts ∧ seconds = otherSeconds := by
  obtain ⟨⟨first, second⟩, isPair⟩ := List.exists_mem_of_ne_nil _ nonempty
  have isOtherPair := isPair
  rw [same] at isOtherPair
  rw [List.mem_product] at isPair isOtherPair
  constructor
  · have sameFirsts := map_fst_filter_product firsts nodupSeconds isPair.2
    rw [same, map_fst_filter_product otherFirsts nodupOtherSeconds
      isOtherPair.2] at sameFirsts
    exact sameFirsts.symm
  · have sameSeconds := map_snd_filter_product seconds nodupFirsts isPair.1
    rw [same, map_snd_filter_product otherSeconds nodupOtherFirsts
      isOtherPair.1] at sameSeconds
    exact sameSeconds.symm

end Product

theorem map_withoutSource_queries
    (languages : Languages)
    (book : QueryBook) :
    (book.queries languages).map EffectiveQuery.withoutSource =
      (languages.list ×ˢ book.categories.list).map
        fun (language, category) =>
          (language, category,
            (book.effective language category).expression) := by
  simp [QueryBook.queries, QueryBook.ofLanguage, List.map_flatMap,
    Function.comp_def, EffectiveQuery.withoutSource, language_effective,
    category_effective, SProd.sprod, List.product]

/-- The languages and categories of a pack can be told from what is written. -/
theorem lists_eq_of_map_withoutSource_eq
    {languages otherLanguages : Languages}
    {book otherBook : QueryBook}
    (nonempty : book.queries languages ≠ [])
    (same :
      (book.queries languages).map EffectiveQuery.withoutSource =
        (otherBook.queries otherLanguages).map
          EffectiveQuery.withoutSource) :
    languages.list = otherLanguages.list ∧
      book.categories.list = otherBook.categories.list := by
  have pairsShape :
      ∀ (languages : Languages) (book : QueryBook),
        ((book.queries languages).map EffectiveQuery.withoutSource).map
            (fun (language, category, _) => (language, category)) =
          languages.list ×ˢ book.categories.list := by
    intro languages book
    rw [map_withoutSource_queries, List.map_map]
    exact List.map_id _
  have nodupCategories : book.categories.list.Nodup :=
    book.categories.nodup
  have nodupOtherCategories : otherBook.categories.list.Nodup :=
    otherBook.categories.nodup
  apply eq_of_product_eq languages.nodup otherLanguages.nodup
    nodupCategories nodupOtherCategories
  · rw [← pairsShape, same, pairsShape]
  · rw [← pairsShape]
    simpa using nonempty

/-- A run that wrote everything, with what it started from. -/
structure FinishedRun where
  root : Path
  languages : Languages
  book : QueryBook
  fileSystem : FileSystem
  report : RunReport
  finished :
    (writePack root languages book fileSystem).result = .ok report

namespace FinishedRun

/-- The queries that the run has written, in writing order. -/
def written (run : FinishedRun) : List EffectiveQuery :=
  (carryOut run.root (plan run.languages run.book) run.fileSystem).written

/-- The bytes that the run has fed to the hash. -/
def hashed (run : FinishedRun) : List UInt8 :=
  Digest.stream run.written

theorem report_eq
    (run : FinishedRun) :
    run.report =
      .ofQueries run.root run.languages run.book.categories run.written :=
  (result_eq_ok_iff.mp run.finished).2

/-- What is written depends neither on the root nor on what was there before. -/
theorem written_eq
    (run : FinishedRun) :
    run.written = run.book.queries run.languages :=
  written_of_unstopped (result_eq_ok_iff.mp run.finished).1

end FinishedRun

/--
What the hashed stream of a finished run tells: which triples were written, and
so, unless nothing was, the languages and the categories. The digest is a
function of these triples alone.
-/
structure StreamIdentifies (run other : FinishedRun) : Prop where
  digest_eq :
    run.report.digest = Text.hex (Digest.hash run.hashed)
  artifacts_eq :
    run.report.artifacts = run.written.map (Artifact.ofQuery run.root)
  hashed_eq_iff :
    (∀ query ∈ run.written, query.FieldsFit) →
    (∀ query ∈ other.written, query.FieldsFit) →
    (run.hashed = other.hashed ↔
      run.written.map EffectiveQuery.withoutSource =
        other.written.map EffectiveQuery.withoutSource)
  lists_eq :
    (∀ query ∈ run.written, query.FieldsFit) →
    (∀ query ∈ other.written, query.FieldsFit) →
    run.written ≠ [] →
    run.hashed = other.hashed →
      run.languages.list = other.languages.list ∧
        run.book.categories.list = other.book.categories.list
  digest_congr :
    (run.book.queries run.languages).map EffectiveQuery.withoutSource =
      (other.book.queries other.languages).map
        EffectiveQuery.withoutSource →
    run.report.digest = other.report.digest

/--
The stream is the concatenation of all fields, each behind its length in eight
bytes. It is the same for two lists of queries exactly if their languages,
categories and expressions are the same, and so it is for two finished runs.
-/
theorem digestStream_identifies_written :
    (∀ queries : List EffectiveQuery,
      Digest.stream queries =
        queries.flatMap fun query =>
          [query.language.name, query.category.name,
              query.expression].flatMap fun text =>
            (List.ofFn fun position : Fin 8 =>
                (text.toUTF8.size / 256 ^ position.val % 256).toUInt8) ++
              text.toUTF8.data.toList) ∧
      (∀ queries others : List EffectiveQuery,
        (∀ query ∈ queries, query.FieldsFit) →
        (∀ query ∈ others, query.FieldsFit) →
        (Digest.stream queries = Digest.stream others ↔
          queries.map EffectiveQuery.withoutSource =
            others.map EffectiveQuery.withoutSource)) ∧
      ∀ run other : FinishedRun, StreamIdentifies run other := by
  have streamIff :
      ∀ queries others : List EffectiveQuery,
        (∀ query ∈ queries, query.FieldsFit) →
        (∀ query ∈ others, query.FieldsFit) →
        (Digest.stream queries = Digest.stream others ↔
          queries.map EffectiveQuery.withoutSource =
            others.map EffectiveQuery.withoutSource) :=
    fun _ _ fit otherFit =>
      ⟨Digest.map_withoutSource_eq_of_stream_eq fit otherFit,
        Digest.stream_congr⟩
  refine ⟨fun queries => ?_, streamIff, fun run other => ?_⟩
  · exact congrArg queries.flatMap (funext Digest.frame_eq)
  · exact
      { digest_eq := by
          rw [run.report_eq]
          rfl
        artifacts_eq := by
          rw [run.report_eq]
          rfl
        hashed_eq_iff := streamIff run.written other.written
        lists_eq := by
          intro fit otherFit nonempty same
          rw [run.written_eq] at nonempty
          apply lists_eq_of_map_withoutSource_eq nonempty
          rw [← run.written_eq, ← other.written_eq]
          exact (streamIff _ _ fit otherFit).mp same
        digest_congr := by
          intro same
          rw [run.report_eq, other.report_eq]
          simp only [RunReport.ofQueries, Digest.ofQueries,
            run.written_eq, other.written_eq, Digest.stream_congr same] }

/--
An override below one root and a category default below another one write the
same text, so the digests are the same although the records differ.
-/
theorem digestStream_identifies_written_override :
    ∃ run other : FinishedRun,
      run.root ≠ other.root ∧
        run.report.artifacts ≠ other.report.artifacts ∧
        run.hashed = other.hashed ∧
        run.languages.list = other.languages.list ∧
        run.report.digest = other.report.digest := by
  let languages : Languages := .ofNames ["go"]
  let overriding : QueryBook :=
    ⟨.ofList [⟨⟨"go"⟩, ⟨"functions"⟩, "(func) @f"⟩],
      .ofNames ["functions"]⟩
  let defaulting : QueryBook :=
    ⟨.empty, .ofEntries [⟨⟨"functions"⟩, "(func) @f"⟩]⟩
  have unstopped :
      (carryOut ⟨"out"⟩ (plan languages overriding) .bare).stopped? =
        none := by
    decide +kernel
  have otherUnstopped :
      (carryOut ⟨"."⟩ (plan languages defaulting) .blank).stopped? =
        none := by
    decide +kernel
  let run : FinishedRun :=
    ⟨⟨"out"⟩, languages, overriding, .bare, _,
      result_eq_ok_iff.mpr ⟨unstopped, rfl⟩⟩
  let other : FinishedRun :=
    ⟨⟨"."⟩, languages, defaulting, .blank, _,
      result_eq_ok_iff.mpr ⟨otherUnstopped, rfl⟩⟩
  have written : run.written = overriding.queries languages :=
    run.written_eq
  have otherWritten : other.written = defaulting.queries languages :=
    other.written_eq
  have sameTriples :
      (overriding.queries languages).map EffectiveQuery.withoutSource =
        (defaulting.queries languages).map EffectiveQuery.withoutSource := by
    decide +kernel
  have differentRoots : (⟨"out"⟩ : Path) ≠ ⟨"."⟩ := by
    decide
  have differentRecords :
      (overriding.queries languages).map (Artifact.ofQuery ⟨"out"⟩) ≠
        (defaulting.queries languages).map (Artifact.ofQuery ⟨"."⟩) := by
    decide +kernel
  have fit :
      ∀ query ∈ overriding.queries languages, query.FieldsFit := by
    decide +kernel
  have otherFit :
      ∀ query ∈ defaulting.queries languages, query.FieldsFit := by
    decide +kernel
  obtain ⟨_, _, identifiesAll⟩ := digestStream_identifies_written
  have identifies := identifiesAll run other
  have sameStream : run.hashed = other.hashed := by
    apply (identifies.hashed_eq_iff ?_ ?_).mpr
    · rw [written, otherWritten, sameTriples]
    · rwa [written]
    · rwa [otherWritten]
  have nonempty : run.written ≠ [] := by
    rw [written]
    decide
  refine ⟨run, other, differentRoots, ?_, sameStream, ?_,
    identifies.digest_congr sameTriples⟩
  · rw [identifies.artifacts_eq, (identifiesAll other run).artifacts_eq,
      written, otherWritten]
    exact differentRecords
  · apply (identifies.lists_eq ?_ ?_ nonempty sameStream).1
    · rwa [written]
    · rwa [otherWritten]

end QueryPack
