import QueryPack.Job
import QueryPack.Proofs.OverrideContents

namespace QueryPack

/-!
# A configuration lies over the built-in queries

The queries of a job come in three layers: what the configuration defines, what
is built in, and the placeholder. An empty text in a configuration defines
nothing, so it hides no built-in query. Because a configuration lists its
definitions in key order, the job's strays are those definitions of it that lie
outside the pack.
-/

namespace QueryBook

variable
    {book : QueryBook}
    {language : Language}
    {category : Category}

theorem effective_of_find?_eq_some
    {query : String}
    (found : book.overrides.find? language category = some query) :
    book.effective language category =
      ⟨language, category, query, .override⟩ := by
  simp only [effective, found]

/-- Without an override and without a default only the placeholder is left. -/
theorem effective_of_find?_eq_none
    (notFound : book.overrides.find? language category = none)
    (noDefault : book.categories.defaultQueryOf category = "") :
    book.effective language category =
      ⟨language, category, placeholderText language category,
        .placeholder⟩ := by
  simp only [effective, notFound, noDefault, if_true]

end QueryBook

section Builtin

theorem nodup_keys_builtinOverrides :
    (builtinOverrides.map Override.key).Nodup := by
  decide +kernel

theorem query_ne_empty_of_builtin :
    ∀ definition ∈ builtinOverrides, definition.query ≠ "" := by
  decide +kernel

/-- Every built-in query belongs to a pair of the built-in pack. -/
theorem mem_pack_of_builtin :
    ∀ definition ∈ builtinOverrides,
      definition.language ∈ Languages.builtin.list ∧
        definition.category ∈ Categories.builtin.list := by
  decide +kernel

theorem find?_builtin_eq_some_iff
    {language : Language}
    {category : Category}
    {query : String} :
    Overrides.builtin.find? language category = some query ↔
      ⟨language, category, query⟩ ∈ builtinOverrides := by
  rw [Overrides.builtin,
    Overrides.find?_ofList_eq_some_iff nodup_keys_builtinOverrides,
    and_iff_left_iff_imp]
  exact fun isBuiltin => query_ne_empty_of_builtin _ isBuiltin

theorem mem_keys_builtin
    {key : QueryKey} :
    key ∈ Overrides.builtin.keys ↔
      key ∈ builtinOverrides.map Override.key := by
  simp only [← Overrides.map_key_toList, List.mem_map, Overrides.mem_toList,
    find?_builtin_eq_some_iff]

theorem size_builtin :
    Overrides.builtin.size = builtinOverrides.length := by
  rw [Overrides.builtin,
    Overrides.size_ofList nodup_keys_builtinOverrides,
    List.filter_eq_self.mpr]
  simpa using query_ne_empty_of_builtin

/-- Categories of names alone have no defaults. -/
theorem Categories.defaultQueryOf_ofNames
    (names : List String)
    (category : Category) :
    (Categories.ofNames names).defaultQueryOf category = "" := by
  unfold defaultQueryOf
  split
  next entry isFound =>
    have isEntry := List.mem_of_find?_eq_some isFound
    obtain ⟨isGiven, _⟩ := mem_of_mem_firstOccurrencesFrom isEntry
    obtain ⟨_, _, rfl⟩ := List.mem_map.mp isGiven
    rfl
  next => rfl

end Builtin

namespace Configuration

/-- What a configuration says of a pair, unless it is an empty text. -/
def query?
    (config : Configuration)
    (language : Language)
    (category : Category) : Option String :=
  (config.queries[language.name]?.bind
    fun queries => queries[category.name]?).filter (· ≠ "")

/-- The definitions of a configuration are the leaves of its two-level map. -/
theorem mem_definitions
    {config : Configuration}
    {definition : Override} :
    definition ∈ config.definitions ↔
      (config.queries[definition.language.name]?.bind
        fun queries => queries[definition.category.name]?) =
          some definition.query := by
  obtain ⟨⟨language⟩, ⟨category⟩, query⟩ := definition
  simp only [definitions, List.mem_flatMap, Option.bind_eq_some_iff]
  constructor
  · rintro ⟨⟨_, queries⟩, isLanguage, isDefinition⟩
    obtain ⟨⟨_, _⟩, isCategory, same⟩ := List.mem_map.mp isDefinition
    cases same
    exact ⟨queries,
      Std.ExtTreeMap.mem_toList_iff_getElem?_eq_some.mp isLanguage,
      Std.ExtTreeMap.mem_toList_iff_getElem?_eq_some.mp isCategory⟩
  · rintro ⟨queries, isLanguage, isCategory⟩
    exact ⟨(language, queries),
      Std.ExtTreeMap.mem_toList_iff_getElem?_eq_some.mpr isLanguage,
      List.mem_map.mpr ⟨(category, query),
        Std.ExtTreeMap.mem_toList_iff_getElem?_eq_some.mpr isCategory, rfl⟩⟩

/-- Going through languages and then categories is going in key order. -/
theorem inKeyOrder_definitions
    (config : Configuration) :
    InKeyOrder config.definitions := by
  rw [InKeyOrder, definitions, List.pairwise_flatMap]
  constructor
  · rintro ⟨language, queries⟩ _
    apply List.Pairwise.map _ ?_ Std.ExtTreeMap.ordered_keys_toList
    intro first second less
    exact Or.inr ⟨rfl, utf8Bytes_lt_of_compare_eq_lt less⟩
  · apply Std.ExtTreeMap.ordered_keys_toList.imp
    intro first second less definition isFirst other isSecond
    obtain ⟨_, _, rfl⟩ := List.mem_map.mp isFirst
    obtain ⟨_, _, rfl⟩ := List.mem_map.mp isSecond
    exact Or.inl (utf8Bytes_lt_of_compare_eq_lt less)

theorem toList_overrides
    (config : Configuration) :
    config.overrides.toList =
      config.definitions.filter (·.query ≠ "") :=
  Overrides.toList_ofList config.inKeyOrder_definitions

theorem find?_overrides
    (config : Configuration)
    (language : Language)
    (category : Category) :
    config.overrides.find? language category =
      config.query? language category := by
  apply Option.ext
  intro query
  rw [overrides,
    Overrides.find?_ofList_eq_some_iff
      config.inKeyOrder_definitions.nodup_keys,
    mem_definitions, query?, Option.filter_eq_some_iff, decide_eq_true_eq]

end Configuration

/-- The definitions of a configuration that may be absent. -/
def givenDefinitions
    (config? : Option Configuration) : List Override :=
  config?.elim [] Configuration.definitions

/-- What a configuration that may be absent says of a pair. -/
def givenQuery?
    (config? : Option Configuration)
    (language : Language)
    (category : Category) : Option String :=
  config?.bind (·.query? language category)

/--
A job that is a configuration laid over the built-in pack.

A pair has what the configuration defines, else what is built in, else the
placeholder. Whatever the configuration does not define is as in the built-in
pack, and what it defines outside the pack are the job's strays.
-/
structure LayersQueries
    (config? : Option Configuration)
    (out? : Option Path)
    (job : Job) : Prop where
  languages_eq : job.languages = Languages.builtin
  categories_eq : job.categories = Categories.builtin
  root_eq :
    job.root =
      (out?.or ((config?.bind Configuration.output?).map Path.mk)).getD
        ⟨"resources/tree-sitter-queries"⟩
  effective_of_given :
    ∀ language category query,
      givenQuery? config? language category = some query →
        job.book.effective language category =
          ⟨language, category, query, .override⟩
  effective_of_builtin :
    ∀ definition ∈ builtinOverrides,
      givenQuery? config? definition.language definition.category = none →
        job.book.effective definition.language definition.category =
          ⟨definition.language, definition.category, definition.query,
            .override⟩
  effective_of_missing :
    ∀ language category,
      givenQuery? config? language category = none →
        (⟨language, category⟩ : QueryKey) ∉
            builtinOverrides.map Override.key →
          job.book.effective language category =
            ⟨language, category,
              "; No " ++ category.name ++ " queries for " ++ language.name,
              .placeholder⟩
  source_ne_default :
    ∀ language category,
      (job.book.effective language category).source ≠ .categoryDefault
  size_eq :
    job.overrides.size =
      builtinOverrides.length +
        (givenDefinitions config?).countP fun definition =>
          definition.query ≠ "" ∧
            definition.key ∉ builtinOverrides.map Override.key
  overrides_toList :
    ∀ config, config? = some config →
      config.overrides.toList =
        config.definitions.filter (·.query ≠ "")
  strays_eq :
    job.strays =
      ((givenDefinitions config?).filter fun definition =>
        definition.query ≠ "" ∧
          (definition.language ∉ job.languages.list ∨
            definition.category ∉ job.categories.list)).map
        (Override.stray job.languages job.categories)
  strays_ordered :
    (job.strays.map StrayOverride.key).Pairwise QueryKey.Precedes

section Layers

variable
    (config? : Option Configuration)
    (out? : Option Path)

theorem inKeyOrder_givenDefinitions :
    InKeyOrder (givenDefinitions config?) := by
  cases config? with
  | none => exact List.Pairwise.nil
  | some config => exact config.inKeyOrder_definitions

theorem find?_ofList_givenDefinitions
    (language : Language)
    (category : Category) :
    (Overrides.ofList (givenDefinitions config?)).find? language category =
      givenQuery? config? language category := by
  cases config? with
  | none => exact Overrides.find?_empty language category
  | some config => exact config.find?_overrides language category

/-- Without a configuration nothing is laid over the built-in queries. -/
theorem overrides_ofConfiguration :
    (Job.ofConfiguration config? out?).overrides =
      Overrides.builtin.overlay
        (Overrides.ofList (givenDefinitions config?)) := by
  cases config? with
  | none => exact (Overrides.overlay_empty _).symm
  | some config => rfl

theorem languages_ofConfiguration :
    (Job.ofConfiguration config? out?).languages = Languages.builtin := by
  cases config? <;> rfl

theorem categories_ofConfiguration :
    (Job.ofConfiguration config? out?).categories = Categories.builtin := by
  cases config? <;> rfl

theorem root_ofConfiguration :
    (Job.ofConfiguration config? out?).root =
      (out?.or ((config?.bind Configuration.output?).map Path.mk)).getD
        Layout.defaultRoot := by
  cases config? with
  | none => cases out? <;> rfl
  | some config =>
    cases out? with
    | some out => rfl
    | none =>
      obtain ⟨output?, _⟩ := config
      cases output? <;> rfl

theorem find?_overrides_ofConfiguration
    (language : Language)
    (category : Category) :
    (Job.ofConfiguration config? out?).overrides.find? language category =
      (givenQuery? config? language category).or
        (Overrides.builtin.find? language category) := by
  rw [overrides_ofConfiguration, Overrides.find?_overlay,
    find?_ofList_givenDefinitions]

/-- The built-in categories have no defaults to fall back to. -/
theorem effective_ofConfiguration_of_find?_eq_none
    {language : Language}
    {category : Category}
    (notFound :
      (Job.ofConfiguration config? out?).overrides.find?
        language category = none) :
    (Job.ofConfiguration config? out?).book.effective language category =
      ⟨language, category, placeholderText language category,
        .placeholder⟩ := by
  apply QueryBook.effective_of_find?_eq_none notFound
  rw [Job.book, categories_ofConfiguration]
  exact Categories.defaultQueryOf_ofNames _ category

theorem size_ofConfiguration :
    (Job.ofConfiguration config? out?).overrides.size =
      builtinOverrides.length +
        (givenDefinitions config?).countP fun definition =>
          definition.query ≠ "" ∧
            definition.key ∉ builtinOverrides.map Override.key := by
  rw [overrides_ofConfiguration, Overrides.size_overlay, size_builtin,
    ← Overrides.map_key_toList (Overrides.ofList _),
    Overrides.toList_ofList (inKeyOrder_givenDefinitions config?),
    ← List.countP_eq_length_filter, List.countP_map, List.countP_filter]
  apply congrArg (builtinOverrides.length + ·)
  apply List.countP_congr
  intro definition _
  simp [mem_keys_builtin, and_comm]

theorem strays_ofConfiguration :
    (Job.ofConfiguration config? out?).strays =
      ((givenDefinitions config?).filter fun definition =>
        definition.query ≠ "" ∧
          (definition.language ∉ Languages.builtin.list ∨
            definition.category ∉ Categories.builtin.list)).map
        (Override.stray Languages.builtin Categories.builtin) := by
  rw [Job.strays, languages_ofConfiguration, categories_ofConfiguration,
    overrides_ofConfiguration, Overrides.strays_overlay,
    Overrides.strays_eq_map_filter,
    Overrides.toList_ofList (inKeyOrder_givenDefinitions config?),
    List.filter_filter]
  · congr 2
    funext definition
    simp [Bool.and_comm]
  · intro definition isListed
    exact mem_pack_of_builtin definition
      (find?_builtin_eq_some_iff.mp (Overrides.mem_toList.mp isListed))

theorem effective_ofConfiguration_of_builtin
    {definition : Override}
    (isBuiltin : definition ∈ builtinOverrides)
    (notGiven :
      givenQuery? config? definition.language definition.category = none) :
    (Job.ofConfiguration config? out?).book.effective
        definition.language definition.category =
      ⟨definition.language, definition.category, definition.query,
        .override⟩ := by
  apply QueryBook.effective_of_find?_eq_some
  rw [Job.book, find?_overrides_ofConfiguration, notGiven,
    find?_builtin_eq_some_iff.mpr isBuiltin, Option.none_or]

theorem effective_ofConfiguration_of_given
    {language : Language}
    {category : Category}
    {query : String}
    (isGiven : givenQuery? config? language category = some query) :
    (Job.ofConfiguration config? out?).book.effective language category =
      ⟨language, category, query, .override⟩ := by
  apply QueryBook.effective_of_find?_eq_some
  rw [Job.book, find?_overrides_ofConfiguration, isGiven, Option.some_or]

theorem source_effective_ofConfiguration_ne
    (language : Language)
    (category : Category) :
    ((Job.ofConfiguration config? out?).book.effective
      language category).source ≠ .categoryDefault := by
  cases found :
      (Job.ofConfiguration config? out?).overrides.find?
        language category with
  | some query =>
    rw [QueryBook.effective_of_find?_eq_some found]
    exact Provenance.noConfusion
  | none =>
    rw [effective_ofConfiguration_of_find?_eq_none config? out? found]
    exact Provenance.noConfusion

/--
The job of every optional configuration and every optional root asked for is
that configuration laid over the built-in pack.
-/
theorem ofConfiguration_layersQueries :
    LayersQueries config? out? (Job.ofConfiguration config? out?) where
  languages_eq := languages_ofConfiguration config? out?
  categories_eq := categories_ofConfiguration config? out?
  root_eq := root_ofConfiguration config? out?
  effective_of_given := by
    intro language category query isGiven
    exact effective_ofConfiguration_of_given config? out? isGiven
  effective_of_builtin := by
    intro definition isBuiltin notGiven
    exact effective_ofConfiguration_of_builtin config? out? isBuiltin notGiven
  effective_of_missing := by
    intro language category notGiven notBuiltin
    -- Look-up finds exactly the keys of the built-in table below the configuration.
    apply effective_ofConfiguration_of_find?_eq_none
    rw [find?_overrides_ofConfiguration, notGiven, Option.none_or,
      ← Option.not_isSome_iff_eq_none]
    exact fun isDefined =>
      notBuiltin (mem_keys_builtin.mp (Overrides.mem_keys.mpr isDefined))
  source_ne_default := source_effective_ofConfiguration_ne config? out?
  size_eq := size_ofConfiguration config? out?
  overrides_toList := by
    intro config _
    exact config.toList_overrides
  strays_eq := by
    rw [languages_ofConfiguration, categories_ofConfiguration]
    exact strays_ofConfiguration config? out?
  strays_ordered := by
    rw [strays_ofConfiguration, List.map_map]
    exact List.pairwise_map.mpr
      ((inKeyOrder_givenDefinitions config?).filter _)

end Layers

/--
An empty text leaves the built-in query of its pair in force, an empty output
is a root, and only the definition outside the pack is a stray.
-/
theorem ofConfiguration_layersQueries_emptied :
    let config : Configuration :=
      { output? := some ""
        queries :=
          Std.ExtTreeMap.ofList
            [("go",
              Std.ExtTreeMap.ofList
                [("functions", ""), ("custom", "(x) @custom")])] }
    let job := Job.ofConfiguration (some config) none
    job.root = ⟨""⟩ ∧
      job.book.effective ⟨"go"⟩ ⟨"functions"⟩ =
        ⟨⟨"go"⟩, ⟨"functions"⟩,
          "[(function_declaration) (method_declaration)] @function",
          .override⟩ ∧
      job.strays.map StrayOverride.key = [⟨⟨"go"⟩, ⟨"custom"⟩⟩] := by
  intro config job
  have layers := ofConfiguration_layersQueries (some config) none
  have notGiven :
      givenQuery? (some config) ⟨"go"⟩ ⟨"functions"⟩ = none := by
    decide
  refine ⟨layers.root_eq, ?_, ?_⟩
  · exact layers.effective_of_builtin
      ⟨⟨"go"⟩, ⟨"functions"⟩,
        "[(function_declaration) (method_declaration)] @function"⟩
      (by decide +kernel) notGiven
  · rw [layers.strays_eq, layers.languages_eq, layers.categories_eq,
      List.map_map]
    decide +kernel

end QueryPack
