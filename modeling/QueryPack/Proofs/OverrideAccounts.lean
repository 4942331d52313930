import QueryPack.FileSystem.Tree
import QueryPack.Proofs.FallbackChain
import QueryPack.Proofs.RunStopping

namespace QueryPack

/-!
# Every override is written or reported

A finished run writes the overrides of its pack, and the strays are all others.
The pairs with an override artifact and the keys of the strays are together a
rearrangement of the keys of the overrides, so every way of counting overrides
is the sum of the two.
-/

/-- The pair that an artifact belongs to. -/
def Artifact.key (artifact : Artifact) : QueryKey :=
  ⟨artifact.language, artifact.category⟩

/-- The artifact that shows a definition under a root. -/
def Override.artifact
    (root : Path)
    (definition : Override) : Artifact where
  language := definition.language
  category := definition.category
  path := Layout.file root definition.language definition.category
  source := .override
  bytes := definition.query.utf8ByteSize

/-- A log line warns of a stray and says what the pack lacks of it. -/
structure StrayOverride.IsWarnedOfBy
    (languages : Languages)
    (categories : Categories)
    (stray : StrayOverride)
    (line : String) : Prop where
  of_neither :
    stray.key.language ∉ languages.list →
    stray.key.category ∉ categories.list →
      line =
        "WARN Ignoring override " ++ stray.key.language.name ++ "/" ++
          stray.key.category.name ++
          ": language and category not in catalog"
  of_category :
    stray.key.language ∉ languages.list →
    stray.key.category ∈ categories.list →
      line =
        "WARN Ignoring override " ++ stray.key.language.name ++ "/" ++
          stray.key.category.name ++ ": language not in catalog"
  of_language :
    stray.key.language ∈ languages.list →
    stray.key.category ∉ categories.list →
      line =
        "WARN Ignoring override " ++ stray.key.language.name ++ "/" ++
          stray.key.category.name ++ ": category not in catalog"

/-- The source of an effective query is an override exactly if one is found. -/
theorem source_effective_eq_override_iff
    {book : QueryBook}
    {language : Language}
    {category : Category} :
    (book.effective language category).source = .override ↔
      book.overrides.Defines ⟨language, category⟩ := by
  rcases book.effective_cases language category with
    ⟨query, isFound, answer⟩ | ⟨notFound, _, answer⟩ | ⟨notFound, _, answer⟩
  · simp [answer, Overrides.Defines, isFound]
  · simp [answer, Overrides.Defines, notFound]
  · simp [answer, Overrides.Defines, notFound]

theorem key_ofQuery_effective
    (root : Path)
    (book : QueryBook)
    (key : QueryKey) :
    (Artifact.ofQuery root
      (book.effective key.language key.category)).key = key := by
  simp only [Artifact.key, Artifact.ofQuery, language_effective,
    category_effective]

/-- Where a definition is found, its artifact is what is written for its pair. -/
theorem ofQuery_effective_of_found
    (root : Path)
    {book : QueryBook}
    (definition : Override)
    (isFound :
      book.overrides.find? definition.language definition.category =
        some definition.query) :
    Artifact.ofQuery root
        (book.effective definition.language definition.category) =
      definition.artifact root := by
  simp only [QueryBook.effective, isFound]
  rfl

section Strays

variable
    {languages : Languages}
    {categories : Categories}
    {overrides : Overrides}

/-- The keys of the strays are the keys that lie outside the pack, in order. -/
theorem map_key_strays :
    (overrides.strays languages categories).map StrayOverride.key =
      overrides.keys.filter (· ∉ packKeys languages categories) := by
  rw [Overrides.strays, List.map_filterMap, ← List.filterMap_eq_filter]
  congr 1
  funext key
  by_cases isListed : key.language ∈ languages.list <;>
    by_cases isListedCategory : key.category ∈ categories.list <;>
      simp [Languages.contains, Categories.contains, mem_packKeys, isListed,
        isListedCategory, Option.guard]

/-- A stray lies outside the pack, and its flags say in which way. -/
theorem mem_strays
    {stray : StrayOverride} :
    stray ∈ overrides.strays languages categories ↔
      overrides.Defines stray.key ∧
        (stray.languageKnown = true ↔ stray.key.language ∈ languages.list) ∧
        (stray.categoryKnown = true ↔
          stray.key.category ∈ categories.list) ∧
        ¬ (stray.languageKnown = true ∧ stray.categoryKnown = true) := by
  rw [Overrides.strays_eq_map_filter, List.mem_map]
  constructor
  · rintro ⟨definition, isKept, rfl⟩
    simp only [List.mem_filter, Overrides.mem_toList,
      decide_eq_true_eq] at isKept
    obtain ⟨isFound, isOutside⟩ := isKept
    refine ⟨Option.isSome_iff_exists.mpr ⟨_, isFound⟩, ?_⟩
    simp only [Override.stray, Override.key, decide_eq_true_eq]
    tauto
  · rintro ⟨isDefined, languageKnown_iff, categoryKnown_iff, isOutside⟩
    obtain ⟨query, isFound⟩ := Option.isSome_iff_exists.mp isDefined
    rw [languageKnown_iff, categoryKnown_iff] at isOutside
    refine ⟨⟨stray.key.language, stray.key.category, query⟩, ?_, ?_⟩
    · simp only [List.mem_filter, Overrides.mem_toList, isFound,
        decide_eq_true_eq]
      tauto
    · simp only [Override.stray, Override.key, ← languageKnown_iff,
        ← categoryKnown_iff, Bool.decide_eq_true]

/-- A definition is a stray if its pair does not belong to the pack. -/
theorem stray_mem_strays_iff
    (languages : Languages)
    (categories : Categories)
    {definition : Override}
    (isListed : definition ∈ overrides.toList) :
    definition.stray languages categories ∈
        overrides.strays languages categories ↔
      definition.key ∉ packKeys languages categories := by
  have isDefined :
      overrides.Defines (definition.stray languages categories).key :=
    Option.isSome_iff_exists.mpr ⟨_, Overrides.mem_toList.mp isListed⟩
  rw [mem_strays, mem_packKeys, and_iff_right isDefined]
  simp [Override.stray, Override.key]

/-- Strays are listed in key order. -/
theorem pairwise_key_strays :
    ((overrides.strays languages categories).map
      StrayOverride.key).Pairwise QueryKey.Precedes := by
  rw [map_key_strays]
  exact overrides.pairwise_precedes_keys.filter _

theorem nodup_key_strays :
    ((overrides.strays languages categories).map
      StrayOverride.key).Nodup := by
  rw [map_key_strays]
  exact overrides.nodup_keys.filter _

theorem line_ignoredOverride
    (stray : StrayOverride) :
    (Notice.ignoredOverride stray).line =
      "WARN Ignoring override " ++ stray.key.language.name ++ "/" ++
        stray.key.category.name ++ (": " ++ stray.reason) := by
  have opening :
      "WARN" ++ (" " ++ "Ignoring override ") = "WARN Ignoring override " :=
    rfl
  have isMessage :
      (Notice.ignoredOverride stray).message =
        "Ignoring override " ++ stray.key.language.name ++ "/" ++
          stray.key.category.name ++ ": " ++ stray.reason :=
    rfl
  rw [← opening]
  simp only [Notice.line, Notice.level, Level.label, isMessage,
    String.append_assoc]

/-- The line of a warning names the stray and what the pack lacks of it. -/
theorem isWarnedOfBy_line
    {stray : StrayOverride}
    (isStray : stray ∈ overrides.strays languages categories) :
    stray.IsWarnedOfBy languages categories
      (Notice.ignoredOverride stray).line := by
  obtain ⟨_, languageKnown_iff, categoryKnown_iff, _⟩ := mem_strays.mp isStray
  rw [line_ignoredOverride]
  constructor
  · intro unlisted unlistedCategory
    rw [← languageKnown_iff, Bool.not_eq_true] at unlisted
    rw [← categoryKnown_iff, Bool.not_eq_true] at unlistedCategory
    rw [StrayOverride.reason, unlisted, unlistedCategory]
    rfl
  · intro unlisted listedCategory
    rw [← languageKnown_iff, Bool.not_eq_true] at unlisted
    rw [← categoryKnown_iff] at listedCategory
    rw [StrayOverride.reason, unlisted, listedCategory]
    rfl
  · intro listed unlistedCategory
    rw [← languageKnown_iff] at listed
    rw [← categoryKnown_iff, Bool.not_eq_true] at unlistedCategory
    rw [StrayOverride.reason, listed, unlistedCategory]
    rfl

end Strays

section Finished

variable
    {root : Path}
    {languages : Languages}
    {categories : Categories}
    {overrides : Overrides}
    {fileSystem : FileSystem}
    {report : RunReport}

/-- The pairs with an override artifact are the defined pairs of the pack. -/
theorem map_key_overrideArtifacts
    (finished :
      (writePack root languages ⟨overrides, categories⟩
        fileSystem).result = .ok report) :
    (report.artifacts.filter (·.source = .override)).map Artifact.key =
      (packKeys languages categories).filter (· ∈ overrides.keys) := by
  have isOverride (key : QueryKey) :
      (Artifact.ofQuery root
        (QueryBook.effective ⟨overrides, categories⟩ key.language
          key.category)).source = .override ↔ key ∈ overrides.keys := by
    rw [Overrides.mem_keys]
    exact source_effective_eq_override_iff
  rw [artifacts_of_finished finished, queries_eq_map_packKeys, List.map_map,
    List.filter_map, List.map_map]
  simp [Function.comp_def, isOverride, key_ofQuery_effective]

/--
The pairs with an override artifact and the keys of the strays are together the
keys of the overrides.
-/
theorem accounted_perm_keys
    (finished :
      (writePack root languages ⟨overrides, categories⟩
        fileSystem).result = .ok report) :
    ((report.artifacts.filter (·.source = .override)).map Artifact.key ++
      (overrides.strays languages categories).map StrayOverride.key).Perm
      overrides.keys := by
  rw [map_key_overrideArtifacts finished, map_key_strays]
  apply (List.perm_ext_iff_of_nodup ?_ overrides.nodup_keys).mpr
  · intro key
    simp only [List.mem_append, List.mem_filter, decide_eq_true_eq]
    tauto
  · apply List.Nodup.append ((nodup_packKeys _ _).filter _)
      (overrides.nodup_keys.filter _)
    intro key ofPack isOutside
    simp only [List.mem_filter, decide_eq_true_eq] at ofPack isOutside
    exact isOutside.2 ofPack.1

/-- No artifact is reported twice. -/
theorem nodup_artifacts
    (finished :
      (writePack root languages ⟨overrides, categories⟩
        fileSystem).result = .ok report) :
    report.artifacts.Nodup := by
  apply List.Nodup.of_map Artifact.key
  rw [artifacts_of_finished finished, queries_eq_map_packKeys, List.map_map,
    List.map_map]
  simpa [Function.comp_def, key_ofQuery_effective] using
    nodup_packKeys languages categories

/-- The artifact of a definition is reported if its pair belongs to the pack. -/
theorem artifact_mem_artifacts_iff
    (finished :
      (writePack root languages ⟨overrides, categories⟩
        fileSystem).result = .ok report)
    {definition : Override}
    (isListed : definition ∈ overrides.toList) :
    definition.artifact root ∈ report.artifacts ↔
      definition.key ∈ packKeys languages categories := by
  rw [artifacts_of_finished finished, queries_eq_map_packKeys, List.map_map,
    List.mem_map]
  constructor
  · rintro ⟨key, ofPack, isArtifact⟩
    have sameKey := congrArg Artifact.key isArtifact
    rw [Function.comp_apply, key_ofQuery_effective] at sameKey
    rw [sameKey] at ofPack
    exact ofPack
  · intro ofPack
    refine ⟨definition.key, ofPack, ?_⟩
    exact ofQuery_effective_of_found root definition
      (Overrides.mem_toList.mp isListed)

/-- An artifact whose source is an override is that of a definition. -/
theorem exists_definition_of_artifact
    (finished :
      (writePack root languages ⟨overrides, categories⟩
        fileSystem).result = .ok report)
    {artifact : Artifact}
    (isReported : artifact ∈ report.artifacts)
    (isOverride : artifact.source = .override) :
    ∃ definition ∈ overrides.toList, artifact = definition.artifact root := by
  rw [artifacts_of_finished finished, queries_eq_map_packKeys, List.map_map,
    List.mem_map] at isReported
  obtain ⟨⟨language, category⟩, _, rfl⟩ := isReported
  have isDefined := source_effective_eq_override_iff.mp isOverride
  obtain ⟨query, isFound⟩ := Option.isSome_iff_exists.mp isDefined
  exact ⟨⟨language, category, query⟩, Overrides.mem_toList.mpr isFound,
    ofQuery_effective_of_found root ⟨language, category, query⟩ isFound⟩

end Finished

/-- How a finished run accounts for the overrides that it was given. -/
structure AccountsForOverrides
    (languages : Languages)
    (categories : Categories)
    (overrides : Overrides)
    (report : RunReport) : Prop where
  accounted_of_language :
    ∀ language,
      (report.artifacts.countP fun artifact =>
          artifact.language = language ∧ artifact.source = .override) +
        ((overrides.strays languages categories).countP fun stray =>
          stray.key.language = language) =
        overrides.countOf language
  accounted :
    report.count .override + (overrides.strays languages categories).length =
      overrides.size
  accounted_once :
    ∀ definition ∈ overrides.toList,
      report.artifacts.count (definition.artifact report.root) +
        (overrides.strays languages categories).count
          (definition.stray languages categories) = 1
  nothing_else :
    ∀ artifact ∈ report.artifacts,
      artifact.source = .override →
        ∃ definition ∈ overrides.toList,
          artifact = definition.artifact report.root

theorem accountsForOverrides_of_finished
    {root : Path}
    {languages : Languages}
    {categories : Categories}
    {overrides : Overrides}
    {fileSystem : FileSystem}
    {report : RunReport}
    (finished :
      (writePack root languages ⟨overrides, categories⟩
        fileSystem).result = .ok report) :
    AccountsForOverrides languages categories overrides report where
  accounted_of_language := by
    intro language
    have sameCount :=
      (accounted_perm_keys finished).countP_eq
        fun key => key.language = language
    rw [List.countP_append, List.countP_map, List.countP_map,
      List.countP_filter] at sameCount
    simp only [Bool.decide_and]
    exact sameCount
  accounted := by
    have sameLength := (accounted_perm_keys finished).length_eq
    rw [List.length_append, List.length_map, List.length_map,
      ← List.countP_eq_length_filter, Overrides.length_keys] at sameLength
    exact sameLength
  accounted_once := by
    intro definition isListed
    rw [root_of_finished finished]
    have isWritten_iff := artifact_mem_artifacts_iff finished isListed
    have isStray_iff :=
      stray_mem_strays_iff languages categories isListed
    by_cases ofPack : definition.key ∈ packKeys languages categories
    · rw [List.count_eq_one_of_mem (nodup_artifacts finished)
          (isWritten_iff.mpr ofPack),
        List.count_eq_zero_of_not_mem
          (isStray_iff.not.mpr (not_not.mpr ofPack))]
    · rw [List.count_eq_zero_of_not_mem (isWritten_iff.not.mpr ofPack),
        List.count_eq_one_of_mem (List.Nodup.of_map _ nodup_key_strays)
          (isStray_iff.mpr ofPack)]
  nothing_else := by
    intro artifact isReported isOverride
    rw [root_of_finished finished]
    exact exists_definition_of_artifact finished isReported isOverride

/--
Overrides are conserved: a finished run of any pack writes each of them once or
the pack reports it once as a stray.

The strays are listed in key order, each key once, with flags that tell what
the pack knows of the key, and the log warns of each of them.
-/
structure ConservesOverrides
    (languages : Languages)
    (categories : Categories)
    (overrides : Overrides) : Prop where
  accounts :
    ∀ root fileSystem report,
      (writePack root languages ⟨overrides, categories⟩
          fileSystem).result = .ok report →
        AccountsForOverrides languages categories overrides report
  mem_strays_iff :
    ∀ stray,
      stray ∈ overrides.strays languages categories ↔
        overrides.Defines stray.key ∧
          (stray.languageKnown = true ↔
            stray.key.language ∈ languages.list) ∧
          (stray.categoryKnown = true ↔
            stray.key.category ∈ categories.list) ∧
          ¬ (stray.languageKnown = true ∧ stray.categoryKnown = true)
  strays_ordered :
    ((overrides.strays languages categories).map
      StrayOverride.key).Pairwise QueryKey.Precedes
  strays_nodup :
    ((overrides.strays languages categories).map StrayOverride.key).Nodup
  warned_count :
    (overrides.warnOfStrays languages categories).1 =
      (overrides.strays languages categories).length
  warned_lines :
    List.Forall₂ (StrayOverride.IsWarnedOfBy languages categories)
      (overrides.strays languages categories)
      ((overrides.warnOfStrays languages categories).2.map Notice.line)

/-- Whatever the overrides and the pack, no override is lost or counted twice. -/
theorem overrides_conserved
    (languages : Languages)
    (categories : Categories)
    (overrides : Overrides) :
    ConservesOverrides languages categories overrides where
  accounts := by
    intro root fileSystem report finished
    exact accountsForOverrides_of_finished finished
  mem_strays_iff _ := mem_strays
  strays_ordered := pairwise_key_strays
  strays_nodup := nodup_key_strays
  warned_count := rfl
  warned_lines := by
    rw [Overrides.warnOfStrays, Overrides.strayNotices, List.map_map,
      List.forall₂_map_right_iff, List.forall₂_same]
    exact fun stray isStray => isWarnedOfBy_line isStray

/--
Of three definitions one is written; the empty one was never held, and the one
for an unknown language is reported.
-/
theorem overrides_conserved_mixed :
    let languages : Languages := .ofNames ["go", "rust", "go"]
    let categories : Categories := .ofNames ["functions"]
    let overrides : Overrides :=
      .ofList
        [⟨⟨"go"⟩, ⟨"functions"⟩, "(func) @f"⟩,
          ⟨⟨"rust"⟩, ⟨"functions"⟩, ""⟩,
          ⟨⟨"cobol"⟩, ⟨"functions"⟩, "(paragraph) @f"⟩]
    ∃ report,
      (writePack ⟨"out"⟩ languages ⟨overrides, categories⟩
          .bare).result = .ok report ∧
        report.count .override = 1 ∧
        AccountsForOverrides languages categories overrides report := by
  intro languages categories overrides
  have unstopped :
      (carryOut ⟨"out"⟩ (plan languages ⟨overrides, categories⟩)
        .bare).stopped? = none := by
    decide +kernel
  have finished := result_eq_ok_iff.mpr ⟨unstopped, rfl⟩
  have accounts :=
    (overrides_conserved languages categories overrides).accounts
      _ _ _ finished
  have strayCount :
      (overrides.strays languages categories).length = 1 := by
    decide +kernel
  have size : overrides.size = 2 := by
    decide +kernel
  have accounted := accounts.accounted
  rw [strayCount, size] at accounted
  exact ⟨_, finished, by omega, accounts⟩

end QueryPack
