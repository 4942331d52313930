import QueryPack.FileSystem.Tree
import QueryPack.Proofs.PlainNames

namespace QueryPack

/-!
# Files stay in their places

Names are joined to the root as text, so where a file lies depends on what its
names mean as paths. A pair whose names neither start anew nor go up is written
below the root. Plain names are single steps: their file lies exactly two steps
below the root, and different plain pairs have different files. Other names
promise nothing; a name of two dots leaves the root, and a name with a dot and
a slash in front is the same directory as the name behind them.
-/

/-- The name that a segment adds to a location. -/
def Segment.name? : Segment → Option String
  | current => none
  | parent => none
  | name text => some text

namespace Path

/-- The names that following a path adds to a location. -/
def names (path : Path) : List String :=
  path.segments.filterMap Segment.name?

/-- The path starts where it is appended, and no step of it goes up. -/
structure Descends (path : Path) : Prop where
  relative :
    path.isAbsolute = false
  neverUp :
    .parent ∉ path.segments

instance (path : Path) : Decidable path.Descends :=
  decidable_of_iff
    (path.isAbsolute = false ∧ .parent ∉ path.segments)
    ⟨fun ⟨relative, neverUp⟩ => ⟨relative, neverUp⟩,
      fun descends => ⟨descends.relative, descends.neverUp⟩⟩

end Path

namespace Language

/-- The name of a language as a path below the root. -/
def path (language : Language) : Path :=
  ⟨language.name⟩

theorem IsPlain.descends_path
    {language : Language}
    (plain : language.IsPlain) :
    language.path.Descends where
  relative :=
    plain.relative_name
  neverUp := by
    rw [path, plain.segments_name]
    simp

theorem IsPlain.names_path
    {language : Language}
    (plain : language.IsPlain) :
    language.path.names = [language.name] := by
  rw [Path.names, path, plain.segments_name]
  rfl

end Language

namespace Category

/-- The file name of a category as a path below a language's directory. -/
def path (category : Category) : Path :=
  ⟨category.fileName⟩

theorem IsPlain.descends_path
    {category : Category}
    (plain : category.IsPlain) :
    category.path.Descends where
  relative :=
    plain.relative_fileName
  neverUp := by
    rw [path, plain.segments_fileName]
    simp

theorem IsPlain.names_path
    {category : Category}
    (plain : category.IsPlain) :
    category.path.names = [category.fileName] := by
  rw [Path.names, path, plain.segments_fileName]
  rfl

end Category

namespace FileSystem

/-- A step that does not go up adds its name, if it has one. -/
theorem eq_of_step_of_ne_parent
    {fileSystem : FileSystem}
    {location next : Location}
    {segment : Segment}
    (notUp : segment ≠ .parent)
    (stepped : fileSystem.step location segment = .ok next) :
    next = segment.name?.toList ++ location := by
  cases segment with
  | current =>
      have stays : location = next := by
        simpa [step, directory_of_step stepped] using stepped
      exact stays.symm
  | parent =>
      exact absurd rfl notUp
  | name name =>
      obtain ⟨_, _, _, isNext⟩ := step_name_eq_ok_iff.mp stepped
      exact isNext

/-- A walk that never goes up adds the names along its way. -/
theorem eq_of_walk_of_neverUp
    {fileSystem : FileSystem}
    {location final : Location}
    {segments : List Segment}
    (neverUp : .parent ∉ segments)
    (walked : fileSystem.walk location segments = .ok final) :
    final = (segments.filterMap Segment.name?).reverse ++ location := by
  induction segments generalizing location with
  | nil =>
      injection walked with same
      exact same.symm
  | cons segment rest inductionHypothesis =>
      rw [List.mem_cons, not_or] at neverUp
      rw [walk] at walked
      cases stepped : fileSystem.step location segment with
      | error reason =>
          simp [stepped] at walked
      | ok next =>
          rw [stepped] at walked
          have isNext :=
            eq_of_step_of_ne_parent (Ne.symm neverUp.1) stepped
          rw [inductionHypothesis neverUp.2 walked, isNext,
            List.filterMap_cons]
          cases segment.name? <;> simp

/-- A location that is denoted is reached by a walk. -/
theorem walk_of_locate
    {fileSystem : FileSystem}
    {path : Path}
    {location : Location}
    (located : fileSystem.locate path = .ok location) :
    fileSystem.walk (fileSystem.start path) path.segments =
      .ok location := by
  unfold locate at located
  split at located
  next => cases located
  next =>
    split at located
    next => cases located
    next walked =>
      split at located
      next =>
        cases located
        exact walked
      next =>
        cases located
        exact walked
      next => cases located

end FileSystem

namespace EffectiveQuery

/-- The names that the file of a query adds to the root. -/
def names (query : EffectiveQuery) : List String :=
  query.language.path.names ++ query.category.path.names

/-- Neither name of the pair starts anew or goes up. -/
def Descends (query : EffectiveQuery) : Prop :=
  query.language.path.Descends ∧ query.category.path.Descends

/-- Both names of the pair are single steps. -/
def IsPlain (query : EffectiveQuery) : Prop :=
  query.language.IsPlain ∧ query.category.IsPlain

instance (query : EffectiveQuery) : Decidable query.Descends :=
  inferInstanceAs (Decidable (_ ∧ _))

instance (query : EffectiveQuery) : Decidable query.IsPlain :=
  inferInstanceAs (Decidable (_ ∧ _))

section Plain

variable
    {query other : EffectiveQuery}

theorem IsPlain.descends
    (plain : query.IsPlain) :
    query.Descends :=
  ⟨plain.1.descends_path, plain.2.descends_path⟩

theorem IsPlain.names_eq
    (plain : query.IsPlain) :
    query.names = [query.language.name, query.category.fileName] := by
  rw [names, plain.1.names_path, plain.2.names_path]
  rfl

/-- Plain pairs with the same names are the same. -/
theorem IsPlain.pair_eq_of_names_eq
    (plain : query.IsPlain)
    (otherPlain : other.IsPlain)
    (sameNames : other.names = query.names) :
    (query.language, query.category) =
      (other.language, other.category) := by
  rw [plain.names_eq, otherPlain.names_eq] at sameNames
  injection sameNames with sameName sameRest
  injection sameRest with sameFileName _
  rw [Category.fileName_injective sameFileName]
  obtain ⟨⟨name⟩, _, _, _⟩ := query
  obtain ⟨⟨otherName⟩, _, _, _⟩ := other
  rw [show otherName = name from sameName]

end Plain

section Descending

variable
    {query : EffectiveQuery}
    (root : Path)

/-- A descending pair adds its steps to those of the root. -/
theorem Descends.segments_path
    (descends : query.Descends) :
    (query.path root).segments =
      root.segments ++
        (query.language.path.segments ++ query.category.path.segments) := by
  rw [path, Layout.file, Path.segments_join _ descends.2.relative,
    Layout.directory, Path.segments_join _ descends.1.relative,
    List.append_assoc]
  rfl

/-- The file of a descending pair begins where the root begins. -/
theorem Descends.isAbsolute_path
    (descends : query.Descends) :
    (query.path root).isAbsolute = root.isAbsolute := by
  rw [path, Layout.file, Path.isAbsolute_join _ descends.2.relative,
    Layout.directory, Path.isAbsolute_join _ descends.1.relative]

end Descending

end EffectiveQuery

/--
Where the file of a query is, seen from the directory that the root is: below
it if the names of the pair descend, and exactly two steps below it, in the
place of this pair, if they are plain.
-/
structure FiledAt
    (root : Path)
    (fileSystem : FileSystem)
    (query : EffectiveQuery)
    (base location : Location) : Prop where
  rootAt :
    RootAt root fileSystem base
  locate_eq :
    fileSystem.locate (query.path root) = .ok location
  location_eq :
    query.Descends →
      location = query.names.reverse ++ base
  inside :
    query.Descends →
      FileSystem.isWithin location base = true
  place_eq :
    query.IsPlain →
      location = [query.category.fileName, query.language.name] ++ base

section Place

variable
    {root : Path}
    {fileSystem : FileSystem}
    {query other : EffectiveQuery}
    {base location : Location}

/-- The file of a descending pair is found by walking on from the root. -/
theorem location_of_descends
    (rootAt : RootAt root fileSystem base)
    (descends : query.Descends)
    (located : fileSystem.locate (query.path root) = .ok location) :
    location = query.names.reverse ++ base := by
  have walked := FileSystem.walk_of_locate located
  rw [FileSystem.start, descends.isAbsolute_path root, ← FileSystem.start,
    descends.segments_path root, FileSystem.walk_append, rootAt.walked]
    at walked
  rw [EffectiveQuery.names, Path.names, Path.names, ← List.filterMap_append]
  apply FileSystem.eq_of_walk_of_neverUp ?_ walked
  rw [List.mem_append, not_or]
  exact ⟨descends.1.neverUp, descends.2.neverUp⟩

theorem FiledAt.of_locate
    (rootAt : RootAt root fileSystem base)
    (located : fileSystem.locate (query.path root) = .ok location) :
    FiledAt root fileSystem query base location where
  rootAt := rootAt
  locate_eq := located
  location_eq := by
    intro descends
    exact location_of_descends rootAt descends located
  inside := by
    intro descends
    rw [FileSystem.isWithin_eq_true_iff,
      location_of_descends rootAt descends located]
    exact List.suffix_append _ base
  place_eq := by
    intro plain
    rw [location_of_descends rootAt plain.descends located, plain.names_eq]
    rfl

/-- Below one root, descending pairs share a file if their names are the same. -/
theorem FiledAt.location_eq_iff
    {otherLocation : Location}
    (filed : FiledAt root fileSystem query base location)
    (otherFiled : FiledAt root fileSystem other base otherLocation)
    (descends : query.Descends)
    (otherDescends : other.Descends) :
    otherLocation = location ↔ other.names = query.names := by
  rw [filed.location_eq descends, otherFiled.location_eq otherDescends,
    List.append_left_inj, List.reverse_inj]

end Place

section Run

variable
    {root : Path}
    {languages : Languages}
    {book : QueryBook}
    {fileSystem : FileSystem}
    {query : EffectiveQuery}

/-- A run writes only queries of its pack. -/
theorem mem_pack_of_mem_written
    (isWritten :
      query ∈ (carryOut root (plan languages book) fileSystem).written) :
    query.language ∈ languages.list ∧
      query.category ∈ book.categories.list := by
  have isPlanned : Step.writeArtifact query ∈ plan languages book :=
    (completed_carryOut_isPrefix _ _ _).subset
      (mem_completed_of_mem_written isWritten)
  rcases mem_plan.mp isPlanned with isRoot | ⟨language, isListed, ofLanguage⟩
  · cases isRoot
  · rcases mem_languagePlan.mp ofLanguage with
        opens | ⟨category, isListedCategory, writes⟩
    · cases opens
    · injection writes with isEffective
      rw [isEffective, language_effective, category_effective]
      exact ⟨isListed, isListedCategory⟩

/-- By the time that something is written, the root is there. -/
theorem exists_rootAt_of_mem_written
    (isWritten :
      query ∈ (carryOut root (plan languages book) fileSystem).written) :
    ∃ base,
      RootAt root
        (carryOut root (plan languages book) fileSystem).fileSystem base := by
  have isCompleted := mem_completed_of_mem_written isWritten
  -- What is completed is a front part of the plan, which begins with the root.
  have madeFirst :
      Step.makeRoot ∈
        (carryOut root (plan languages book) fileSystem).completed := by
    have isFront :=
      completed_carryOut_isPrefix root (plan languages book) fileSystem
    obtain ⟨first, rest, completedShape⟩ :=
      List.exists_cons_of_ne_nil (List.ne_nil_of_mem isCompleted)
    rw [completedShape, plan, List.cons_prefix_cons] at isFront
    rw [completedShape, isFront.1]
    exact List.mem_cons_self
  exact RootAt.of_hasDirectory (isSettled_of_mem_completed madeFirst)

theorem exists_filedAt_of_mem_written
    {base : Location}
    (rootAt :
      RootAt root
        (carryOut root (plan languages book) fileSystem).fileSystem base)
    (isWritten :
      query ∈ (carryOut root (plan languages book) fileSystem).written) :
    ∃ location,
      FiledAt root
        (carryOut root (plan languages book) fileSystem).fileSystem query
        base location := by
  obtain ⟨location, stores⟩ := exists_stores_of_mem_written isWritten
  exact ⟨location, .of_locate rootAt stores.locate_eq⟩

theorem locate_eq_iff_of_mem_written
    {other : EffectiveQuery}
    (isWritten :
      query ∈ (carryOut root (plan languages book) fileSystem).written)
    (otherWritten :
      other ∈ (carryOut root (plan languages book) fileSystem).written)
    (descends : query.Descends)
    (otherDescends : other.Descends) :
    (carryOut root (plan languages book) fileSystem).fileSystem.locate
          (other.path root) =
        (carryOut root (plan languages book) fileSystem).fileSystem.locate
          (query.path root) ↔
      other.names = query.names := by
  obtain ⟨base, rootAt⟩ := exists_rootAt_of_mem_written isWritten
  obtain ⟨location, filed⟩ :=
    exists_filedAt_of_mem_written rootAt isWritten
  obtain ⟨otherLocation, otherFiled⟩ :=
    exists_filedAt_of_mem_written rootAt otherWritten
  rw [filed.locate_eq, otherFiled.locate_eq, Except.ok.injEq]
  exact filed.location_eq_iff otherFiled descends otherDescends

end Run

/--
What a run that has written the given queries may have done to files.

Each query belongs to the pack and has its file, and every other file is as it
was. Two descending pairs share a file exactly if their paths below the root
have the same names, so two plain pairs never do.
-/
structure KeepsToPlaces
    (root : Path)
    (languages : Languages)
    (categories : Categories)
    (written : List EffectiveQuery)
    (before after : FileSystem) : Prop where
  mem_pack :
    ∀ query ∈ written,
      query.language ∈ languages.list ∧ query.category ∈ categories.list
  filed :
    ∀ query ∈ written,
      ∃ base location, FiledAt root after query base location
  of_changed :
    ∀ {location content},
      after.entryAt? location = some (.file content) →
      before.entryAt? location ≠ some (.file content) →
      ∃ query ∈ written,
        after.locate (query.path root) = .ok location
  shared_iff :
    ∀ query ∈ written, ∀ other ∈ written,
      query.Descends → other.Descends →
      (after.locate (other.path root) = after.locate (query.path root) ↔
        other.names = query.names)
  separate :
    ∀ query ∈ written, ∀ other ∈ written,
      query.IsPlain → other.IsPlain →
      (query.language, query.category) ≠
        (other.language, other.category) →
      after.locate (other.path root) ≠ after.locate (query.path root)

/--
A run over any names, finished or not, creates or changes only files of pairs
that it has written. Those of descending pairs lie below the root, those of
plain pairs in their documented place, and no two plain pairs share one.
-/
theorem writePack_keepsToPlaces
    (root : Path)
    (languages : Languages)
    (book : QueryBook)
    (fileSystem : FileSystem) :
    KeepsToPlaces root languages book.categories
      ((writePack root languages book fileSystem).queriesWritten
        languages book)
      fileSystem
      (writePack root languages book fileSystem).fileSystem := by
  rw [queriesWritten_writePack, fileSystem_writePack]
  exact
    { mem_pack := by
        intro query isWritten
        exact mem_pack_of_mem_written isWritten
      filed := by
        intro query isWritten
        obtain ⟨base, rootAt⟩ := exists_rootAt_of_mem_written isWritten
        obtain ⟨location, filed⟩ := exists_filedAt_of_mem_written rootAt isWritten
        exact ⟨base, location, filed⟩
      of_changed := by
        intro location content found isNew
        by_contra notWritten
        push Not at notWritten
        exact isNew
          ((sameOrMade_of_not_written notWritten).of_entryAt?_of_ne_directory
            found (by simp))
      shared_iff := by
        intro query isWritten other otherWritten descends otherDescends
        exact locate_eq_iff_of_mem_written isWritten otherWritten descends
          otherDescends
      separate := by
        intro query isWritten other otherWritten plain otherPlain different
          sameLocation
        apply different
        apply plain.pair_eq_of_names_eq otherPlain
        exact (locate_eq_iff_of_mem_written isWritten otherWritten
          plain.descends otherPlain.descends).mp sameLocation }

/-- A nested language and one behind a dot are written below the root. -/
theorem writePack_keepsToPlaces_nested :
    let root : Path := ⟨"out"⟩
    let languages : Languages := .ofNames ["go", "./rust", "web/css"]
    let book : QueryBook := ⟨.empty, .ofNames ["functions"]⟩
    let outcome := writePack root languages book .bare
    ∀ query ∈ outcome.queriesWritten languages book,
      ∃ location,
        outcome.fileSystem.locate (query.path root) = .ok location ∧
          FileSystem.isWithin location ["out"] = true := by
  intro root languages book outcome query isWritten
  have allDescend :
      ∀ query ∈ outcome.queriesWritten languages book,
        query.Descends := by
    decide +kernel
  have walked :
      outcome.fileSystem.walk (outcome.fileSystem.start root)
        root.segments = .ok ["out"] := by
    decide +kernel
  obtain ⟨base, location, filed⟩ :=
    (writePack_keepsToPlaces root languages book .bare).filed query isWritten
  have isBase : base = ["out"] :=
    Except.ok.inj (filed.rootAt.walked.symm.trans walked)
  subst isBase
  exact ⟨location, filed.locate_eq, filed.inside (allDescend query isWritten)⟩

/--
Other names keep nothing in place: the file of a language of two dots is made
outside the root, and a language and its name behind a dot and a slash have the
same file, which holds the query that was written last.
-/
theorem writePack_leavesRoot :
    let root : Path := ⟨"out/sub"⟩
    let languages : Languages := .ofNames ["..", "go", "./go"]
    let book : QueryBook :=
      ⟨.ofList [⟨⟨"go"⟩, ⟨"c"⟩, "A"⟩, ⟨⟨"./go"⟩, ⟨"c"⟩, "B"⟩],
        .ofNames ["c"]⟩
    let outcome := writePack root languages book .bare
    let written := outcome.queriesWritten languages book
    outcome.fileSystem.locate root = .ok ["sub", "out"] ∧
      (FileSystem.bare.pathExists ⟨"out/c.scm"⟩ = false ∧
        outcome.fileSystem.locate ⟨"out/c.scm"⟩ = .ok ["c.scm", "out"] ∧
        outcome.fileSystem.readText ⟨"out/c.scm"⟩ =
          .ok "; No c queries for .." ∧
        FileSystem.isWithin ["c.scm", "out"] ["sub", "out"] = false) ∧
      ∃ query ∈ written, ∃ other ∈ written,
        (query.language, query.category) ≠
            (other.language, other.category) ∧
          outcome.fileSystem.locate (query.path root) =
            .ok ["c.scm", "go", "sub", "out"] ∧
          outcome.fileSystem.locate (other.path root) =
            .ok ["c.scm", "go", "sub", "out"] ∧
          outcome.fileSystem.readText ⟨"out/sub/go/c.scm"⟩ = .ok "B" := by
  intro root languages book outcome written
  let query := book.effective ⟨"go"⟩ ⟨"c"⟩
  let other := book.effective ⟨"./go"⟩ ⟨"c"⟩
  have areWritten : query ∈ written ∧ other ∈ written := by
    decide +kernel
  refine ⟨by decide +kernel, by decide +kernel, query, areWritten.1, other,
    areWritten.2, by decide +kernel⟩

end QueryPack
