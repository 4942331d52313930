import QueryPack.Proofs.RunStopping

namespace QueryPack

/-!
# Runs over plain names

Over plain names every step has a place of its own below the root: the
directory of a language lies in the root, the file of a pair in the directory
of its language. Steps at different places do not disturb one another, so what
stands in the way of a step can be told before the run begins, and what a run
leaves can be read off the list of steps it has carried out.
-/

/-- The root of a run has been made and is the directory at a location. -/
structure RootAt
    (root : Path)
    (fileSystem : FileSystem)
    (base : Location) : Prop where
  noNul :
    '\x00' ∉ root.text.toList
  walked :
    fileSystem.walk (fileSystem.start root) root.segments = .ok base
  isDirectory :
    fileSystem.entryAt? base = some .directory

namespace RootAt

theorem of_hasDirectory
    {root : Path}
    {fileSystem : FileSystem}
    (has : fileSystem.HasDirectory root) :
    ∃ base, RootAt root fileSystem base := by
  obtain ⟨base, walked, isDirectory⟩ := has.exists_walk
  exact ⟨base, has.noNul, walked, isDirectory⟩

theorem of_keepsDirectories
    {root : Path}
    {before after : FileSystem}
    {base : Location}
    (keeps : before.KeepsDirectories after)
    (rootAt : RootAt root before base) :
    RootAt root after base where
  noNul :=
    rootAt.noNul
  walked := by
    rw [keeps.start_eq]
    exact FileSystem.walk_of_keepsDirectories keeps rootAt.walked
      rootAt.isDirectory
  isDirectory :=
    keeps.directory_kept rootAt.isDirectory

end RootAt

/-- A name that no entry can have: it holds a null character or is too long. -/
def NameIsUnusable (name : String) : Prop :=
  '\x00' ∈ name.toList ∨ FileSystem.maxNameBytes < name.utf8ByteSize

instance (name : String) : Decidable (NameIsUnusable name) :=
  inferInstanceAs (Decidable (_ ∨ _))

namespace Step

/-- The path that a step makes or writes. -/
def path (root : Path) : Step → Path
  | makeRoot => root
  | openLanguage language => Layout.directory root language
  | writeArtifact query => query.path root

/-- The name that a step adds to its surroundings. -/
def name : Step → String
  | makeRoot => ""
  | openLanguage language => language.name
  | writeArtifact query => query.category.fileName

/-- The directory that a step adds its name to, where the root is at `base`. -/
def surrounding (base : Location) : Step → Location
  | makeRoot => base
  | openLanguage _ => base
  | writeArtifact query => query.language.name :: base

/-- The segments that lead to the surroundings of a step. -/
def frontSegments (root : Path) : Step → List Segment
  | makeRoot => root.segments
  | openLanguage _ => root.segments
  | writeArtifact query => root.segments ++ [.name query.language.name]

/-- The place that a step is about. -/
def place (base : Location) (step : Step) : Location :=
  step.name :: step.surrounding base

/-- What stands at the place of a step that was carried out. -/
def leaves (former : Option Entry) : Step → Entry
  | makeRoot => .directory
  | openLanguage _ => .directory
  | writeArtifact query => .written query.expression.toUTF8 former

/-- Whether a step belongs to a language and all names in it are plain. -/
def IsPlain : Step → Prop
  | makeRoot => False
  | openLanguage language => language.IsPlain
  | writeArtifact query => query.language.IsPlain ∧ query.category.IsPlain

/--
Something stands in the way of a step: its name is unusable, something other
than a directory stands where a directory is to be made, or a directory stands
where a file is to be written.
-/
def IsObstructed (root : Path) (fileSystem : FileSystem) : Step → Prop
  | makeRoot =>
      False
  | openLanguage language =>
      NameIsUnusable language.name ∨
        fileSystem.pathExists (Layout.directory root language) = true ∧
          fileSystem.isDirectory (Layout.directory root language) = false
  | writeArtifact query =>
      NameIsUnusable query.category.fileName ∨
        fileSystem.isDirectory (query.path root) = true

/-- The path of a step is longer than any path may be. -/
def IsOverlong (root : Path) (step : Step) : Prop :=
  FileSystem.maxPathBytes < (step.path root).text.utf8ByteSize

/-- An entry that keeps a step from being carried out at its place. -/
def IsBlockedBy (former : Option Entry) : Step → Prop
  | makeRoot => False
  | openLanguage _ => former ≠ none ∧ former ≠ some .directory
  | writeArtifact _ => former = some .directory

/-- The directory that a step adds its name to can be named. -/
def HasUsableSurrounding : Step → Prop
  | makeRoot => True
  | openLanguage _ => True
  | writeArtifact query => ¬ NameIsUnusable query.language.name

end Step

theorem nameIsTooLong_eq_false
    {name : String}
    (usable : ¬ NameIsUnusable name) :
    FileSystem.nameIsTooLong name = false := by
  simpa [FileSystem.nameIsTooLong] using
    fun long => usable (Or.inr long)

namespace FileSystem

theorem checkPath_eq_ok_iff
    (path : Path) :
    checkPath path = .ok () ↔
      '\x00' ∉ path.text.toList ∧
        path.text.utf8ByteSize ≤ maxPathBytes ∧
        path.text ≠ "" := by
  unfold checkPath
  split
  next hasNul => simp [hasNul]
  next noNul =>
    split
    next long => simpa using fun _ short => absurd long (by omega)
    next short =>
      split
      next isEmpty => simp [isEmpty]
      next nonempty => simpa [noNul, nonempty] using short

end FileSystem

namespace Step

section Plain

variable
    {root : Path}
    {fileSystem : FileSystem}
    {base : Location}
    {step : Step}

theorem IsPlain.segments_path
    (plain : step.IsPlain) :
    (step.path root).segments =
      step.frontSegments root ++ [.name step.name] := by
  cases step with
  | makeRoot =>
      exact plain.elim
  | openLanguage language =>
      exact Layout.segments_directory root plain
  | writeArtifact query =>
      exact (Layout.segments_file root plain.1 plain.2).trans
        (by simp [frontSegments, name])

theorem IsPlain.start_path
    (plain : step.IsPlain) :
    fileSystem.start (step.path root) = fileSystem.start root := by
  have isAbsolute_path :
      (step.path root).isAbsolute = root.isAbsolute := by
    cases step with
    | makeRoot =>
        exact plain.elim
    | openLanguage language =>
        exact Layout.isAbsolute_directory root plain
    | writeArtifact query =>
        exact Layout.isAbsolute_file root plain.1 plain.2
  rw [FileSystem.start, FileSystem.start, isAbsolute_path]

theorem IsPlain.endsInSlash_path
    (plain : step.IsPlain) :
    (step.path root).endsInSlash = false := by
  cases step with
  | makeRoot =>
      exact plain.elim
  | openLanguage language =>
      exact Layout.endsInSlash_directory root plain
  | writeArtifact query =>
      exact Layout.endsInSlash_file root plain.2

theorem IsPlain.text_path_ne_empty
    (plain : step.IsPlain) :
    (step.path root).text ≠ "" := by
  intro isEmpty
  have segmentsShape :
      (step.path root).segments =
        step.frontSegments root ++ [.name step.name] :=
    plain.segments_path
  have noSegment :
      (Path.splitAtSlashes "".toList).filterMap Segment.ofPart? = [] :=
    rfl
  rw [Path.segments, isEmpty, noSegment] at segmentsShape
  simp at segmentsShape

/-- The path of a plain step has a parent. -/
theorem IsPlain.parent?_path_ne_none
    (plain : step.IsPlain) :
    (step.path root).parent? ≠ none := by
  intro parentless
  have isCurrent :
      Segment.name step.name = .current :=
    Path.segments_of_parent?_eq_none parentless
      (by rw [plain.segments_path]; simp)
  cases isCurrent

/-- The only null characters in a plain path are those of its names. -/
theorem IsPlain.noNul_path
    (plain : step.IsPlain)
    (rootNoNul : '\x00' ∉ root.text.toList)
    (surroundingUsable : step.HasUsableSurrounding)
    (usable : ¬ NameIsUnusable step.name) :
    '\x00' ∉ (step.path root).text.toList := by
  have nameNoNul : '\x00' ∉ step.name.toList :=
    fun hasNul => usable (Or.inl hasNul)
  cases step with
  | makeRoot =>
      exact rootNoNul
  | openLanguage language =>
      rw [path, Layout.directory,
        Path.mem_join root plain.relative_name (by decide), not_or]
      exact ⟨rootNoNul, nameNoNul⟩
  | writeArtifact query =>
      have languageNoNul : '\x00' ∉ query.language.name.toList :=
        fun hasNul => surroundingUsable (Or.inl hasNul)
      rw [path, EffectiveQuery.path, Layout.file,
        Path.mem_join _ plain.2.relative_fileName (by decide),
        Layout.directory,
        Path.mem_join root plain.1.relative_name (by decide), not_or, not_or]
      exact ⟨⟨rootNoNul, languageNoNul⟩, nameNoNul⟩

/-- A path is accepted when its names are usable and it is not overlong. -/
theorem IsPlain.checkPath_path
    (plain : step.IsPlain)
    (rootNoNul : '\x00' ∉ root.text.toList)
    (surroundingUsable : step.HasUsableSurrounding)
    (usable : ¬ NameIsUnusable step.name)
    (notOverlong : ¬ step.IsOverlong root) :
    FileSystem.checkPath (step.path root) = .ok () := by
  rw [FileSystem.checkPath_eq_ok_iff]
  exact ⟨plain.noNul_path rootNoNul surroundingUsable usable,
    Nat.le_of_not_lt notOverlong, plain.text_path_ne_empty⟩

/-- The segments before the name of a step lead to its surroundings. -/
theorem walk_frontSegments
    (rootAt : RootAt root fileSystem base)
    (surroundingIsDirectory :
      fileSystem.entryAt? (step.surrounding base) = some .directory)
    (surroundingUsable : step.HasUsableSurrounding) :
    fileSystem.walk (fileSystem.start root) (step.frontSegments root) =
      .ok (step.surrounding base) := by
  cases step with
  | makeRoot =>
      exact rootAt.walked
  | openLanguage language =>
      exact rootAt.walked
  | writeArtifact query =>
      have found :
          fileSystem.entryAt? (query.language.name :: base) =
            some .directory :=
        surroundingIsDirectory
      rw [frontSegments,
        FileSystem.walk_append_name rootAt.walked rootAt.isDirectory,
        nameIsTooLong_eq_false surroundingUsable, found]
      rfl

theorem IsPlain.walk_dropLast
    (plain : step.IsPlain)
    (rootAt : RootAt root fileSystem base)
    (surroundingIsDirectory :
      fileSystem.entryAt? (step.surrounding base) = some .directory)
    (surroundingUsable : step.HasUsableSurrounding) :
    fileSystem.walk (fileSystem.start (step.path root))
        (step.path root).segments.dropLast =
      .ok (step.surrounding base) := by
  rw [plain.segments_path, List.dropLast_concat, plain.start_path]
  exact walk_frontSegments rootAt surroundingIsDirectory
    surroundingUsable

/-- A step over usable names leads to its place. -/
theorem IsPlain.leadsTo
    (plain : step.IsPlain)
    (rootAt : RootAt root fileSystem base)
    (surroundingIsDirectory :
      fileSystem.entryAt? (step.surrounding base) = some .directory)
    (surroundingUsable : step.HasUsableSurrounding)
    (usable : ¬ NameIsUnusable step.name)
    (notOverlong : ¬ step.IsOverlong root) :
    fileSystem.LeadsTo (step.path root) step.name
      (step.surrounding base) where
  accepted :=
    plain.checkPath_path rootAt.noNul surroundingUsable usable notOverlong
  walked :=
    plain.walk_dropLast rootAt surroundingIsDirectory surroundingUsable
  isDirectory :=
    surroundingIsDirectory
  lastSegment := by
    rw [plain.segments_path, List.getLast?_concat]
  short :=
    nameIsTooLong_eq_false usable

/-- A path that denotes a directory has a directory around it. -/
theorem IsPlain.surrounding_of_isDirectory
    (plain : step.IsPlain)
    (rootAt : RootAt root fileSystem base)
    (isDirectory : fileSystem.isDirectory (step.path root) = true) :
    fileSystem.entryAt? (step.surrounding base) = some .directory := by
  cases step with
  | makeRoot =>
      exact plain.elim
  | openLanguage language =>
      exact rootAt.isDirectory
  | writeArtifact query =>
      obtain ⟨_, location, walked, _⟩ :=
        FileSystem.isDirectory_eq_true_iff.mp isDirectory
      rw [plain.start_path, plain.segments_path] at walked
      obtain ⟨middle, walkedFront, stepped⟩ :=
        FileSystem.exists_step_of_walk_append walked
      obtain ⟨outer, walkedRoot, steppedFront⟩ :=
        FileSystem.exists_step_of_walk_append walkedFront
      have isBase : outer = base :=
        Except.ok.inj (walkedRoot.symm.trans rootAt.walked)
      obtain ⟨_, _, _, isMiddle⟩ :=
        FileSystem.step_name_eq_ok_iff.mp steppedFront
      rw [isMiddle, isBase] at stepped
      exact FileSystem.directory_of_step stepped

/-- Where a step leads to its place, only the entry there is in its way. -/
theorem IsPlain.isObstructed_iff_of_leadsTo
    (plain : step.IsPlain)
    (usable : ¬ NameIsUnusable step.name)
    (leads :
      fileSystem.LeadsTo (step.path root) step.name
        (step.surrounding base)) :
    step.IsObstructed root fileSystem ↔
      step.IsBlockedBy (fileSystem.entryAt? (step.place base)) := by
  have notDirectory_iff :
      fileSystem.isDirectory (step.path root) = false ↔
        fileSystem.entryAt? (step.place base) ≠ some .directory := by
    rw [← Bool.not_eq_true, leads.isDirectory_eq_true_iff]
    rfl
  cases step with
  | makeRoot =>
      exact plain.elim
  | openLanguage language =>
      have pathExists_iff :=
        leads.pathExists_eq_true_iff plain.endsInSlash_path
      constructor
      · rintro (unusable | ⟨pathExists, notDirectory⟩)
        · exact absurd unusable usable
        · exact ⟨pathExists_iff.mp pathExists,
            notDirectory_iff.mp notDirectory⟩
      · rintro ⟨isThere, notDirectory⟩
        exact Or.inr ⟨pathExists_iff.mpr isThere,
          notDirectory_iff.mpr notDirectory⟩
  | writeArtifact query =>
      constructor
      · rintro (unusable | isDirectory)
        · exact absurd unusable usable
        · exact leads.isDirectory_eq_true_iff.mp isDirectory
      · intro found
        exact Or.inr (leads.isDirectory_eq_true_iff.mpr found)

/-- Without its surroundings there is nothing in the way of a step. -/
theorem IsPlain.isObstructed_iff_of_no_surrounding
    (plain : step.IsPlain)
    (rootAt : RootAt root fileSystem base)
    (usable : ¬ NameIsUnusable step.name)
    (noSurrounding :
      fileSystem.entryAt? (step.surrounding base) ≠ some .directory) :
    step.IsObstructed root fileSystem ↔
      step.IsBlockedBy (fileSystem.entryAt? (step.place base)) := by
  cases step with
  | makeRoot =>
      exact plain.elim
  | openLanguage language =>
      exact absurd rootAt.isDirectory noSurrounding
  | writeArtifact query =>
      apply iff_of_false
      · rintro (unusable | isDirectory)
        · exact usable unusable
        · exact noSurrounding
            (plain.surrounding_of_isDirectory rootAt isDirectory)
      · intro found
        exact noSurrounding
          (FileSystem.entryAt?_surrounding
            (Option.ne_none_iff_exists'.mpr ⟨_, found⟩))

theorem IsPlain.isObstructed_of_unusable
    (plain : step.IsPlain)
    (unusable : NameIsUnusable step.name) :
    step.IsObstructed root fileSystem := by
  cases step with
  | makeRoot =>
      exact plain.elim
  | openLanguage language =>
      exact Or.inl unusable
  | writeArtifact query =>
      exact Or.inl unusable

/--
What stands in the way of a step can be seen at its place, as long as its
surroundings can be named.
-/
theorem IsPlain.isBlocked_iff
    (plain : step.IsPlain)
    (rootAt : RootAt root fileSystem base)
    (surroundingUsable : step.HasUsableSurrounding) :
    step.IsObstructed root fileSystem ∨ step.IsOverlong root ↔
      NameIsUnusable step.name ∨ step.IsOverlong root ∨
        step.IsBlockedBy (fileSystem.entryAt? (step.place base)) := by
  by_cases unusable : NameIsUnusable step.name
  · exact iff_of_true (Or.inl (plain.isObstructed_of_unusable unusable))
      (Or.inl unusable)
  · by_cases overlong : step.IsOverlong root
    · exact iff_of_true (Or.inr overlong) (Or.inr (Or.inl overlong))
    · simp only [unusable, overlong, or_false, false_or]
      by_cases surroundingIsDirectory :
          fileSystem.entryAt? (step.surrounding base) = some .directory
      · exact plain.isObstructed_iff_of_leadsTo unusable
          (plain.leadsTo rootAt surroundingIsDirectory surroundingUsable
            unusable overlong)
      · exact plain.isObstructed_iff_of_no_surrounding rootAt unusable
          surroundingIsDirectory

/-- A null character in the name of a step is one in its path. -/
theorem IsPlain.nul_mem_path
    (plain : step.IsPlain)
    (hasNul : '\x00' ∈ step.name.toList) :
    '\x00' ∈ (step.path root).text.toList := by
  cases step with
  | makeRoot =>
      exact plain.elim
  | openLanguage language =>
      exact (Path.mem_join root plain.relative_name (by decide)).mpr
        (Or.inr hasNul)
  | writeArtifact query =>
      exact (Path.mem_join _ plain.2.relative_fileName (by decide)).mpr
        (Or.inr hasNul)

/-- Where a plain step leads, its name is usable and its path not overlong. -/
theorem IsPlain.usable_of_checkPath
    (plain : step.IsPlain)
    (accepted : FileSystem.checkPath (step.path root) = .ok ())
    (short : FileSystem.nameIsTooLong step.name = false) :
    ¬ NameIsUnusable step.name ∧ ¬ step.IsOverlong root := by
  obtain ⟨noNul, notOverlong, _⟩ :=
    (FileSystem.checkPath_eq_ok_iff _).mp accepted
  refine ⟨?_, Nat.not_lt.mpr notOverlong⟩
  rintro (hasNul | long)
  · exact noNul (plain.nul_mem_path hasNul)
  · simp [FileSystem.nameIsTooLong] at short
    omega

/-- Wherever the path of a plain step leads, it is the place of the step. -/
theorem IsPlain.place_of_leadsTo
    (plain : step.IsPlain)
    (rootAt : RootAt root fileSystem base)
    (surroundingIsDirectory :
      fileSystem.entryAt? (step.surrounding base) = some .directory)
    (surroundingUsable : step.HasUsableSurrounding)
    {otherName : String}
    {otherSurrounding : Location}
    (leads :
      fileSystem.LeadsTo (step.path root) otherName otherSurrounding) :
    ¬ NameIsUnusable step.name ∧ ¬ step.IsOverlong root ∧
      otherName :: otherSurrounding = step.place base := by
  have sameName : step.name = otherName := by
    have lastSegment := leads.lastSegment
    rw [plain.segments_path, List.getLast?_concat] at lastSegment
    injection lastSegment with sameSegment
    injection sameSegment
  obtain ⟨usable, notOverlong⟩ :=
    plain.usable_of_checkPath leads.accepted (sameName ▸ leads.short)
  exact ⟨usable, notOverlong,
    leads.unique
      (plain.leadsTo rootAt surroundingIsDirectory surroundingUsable
        usable notOverlong)⟩

/-- The directory that the path of a step denotes is at its place. -/
theorem IsPlain.leadsTo_of_isDirectory
    (plain : step.IsPlain)
    (rootAt : RootAt root fileSystem base)
    (surroundingIsDirectory :
      fileSystem.entryAt? (step.surrounding base) = some .directory)
    (surroundingUsable : step.HasUsableSurrounding)
    (isDirectory : fileSystem.isDirectory (step.path root) = true) :
    fileSystem.LeadsTo (step.path root) step.name
        (step.surrounding base) ∧
      fileSystem.entryAt? (step.place base) = some .directory := by
  obtain ⟨accepted, location, walked, _⟩ :=
    FileSystem.isDirectory_eq_true_iff.mp isDirectory
  have nameWalked :=
    FileSystem.walk_append_name
      (walk_frontSegments rootAt surroundingIsDirectory surroundingUsable)
      surroundingIsDirectory step.name
  rw [← plain.segments_path, ← plain.start_path, walked] at nameWalked
  have short : FileSystem.nameIsTooLong step.name = false := by
    rw [← Bool.not_eq_true]
    intro long
    simp [long] at nameWalked
  obtain ⟨usable, notOverlong⟩ :=
    plain.usable_of_checkPath accepted short
  have leads :=
    plain.leadsTo rootAt surroundingIsDirectory surroundingUsable
      usable notOverlong
  exact ⟨leads, leads.isDirectory_eq_true_iff.mp isDirectory⟩

/-- A blocked step finds an entry in its way wherever its path leads. -/
theorem IsPlain.isBlockedBy_of_leadsTo
    (plain : step.IsPlain)
    (rootAt : RootAt root fileSystem base)
    (surroundingIsDirectory :
      fileSystem.entryAt? (step.surrounding base) = some .directory)
    (surroundingUsable : step.HasUsableSurrounding)
    (blocked :
      NameIsUnusable step.name ∨ step.IsOverlong root ∨
        step.IsBlockedBy (fileSystem.entryAt? (step.place base)))
    {name : String}
    {surrounding : Location}
    (leads : fileSystem.LeadsTo (step.path root) name surrounding) :
    step.IsBlockedBy (fileSystem.entryAt? (name :: surrounding)) := by
  obtain ⟨usable, notOverlong, samePlace⟩ :=
    plain.place_of_leadsTo rootAt surroundingIsDirectory
      surroundingUsable leads
  rw [samePlace]
  exact (blocked.resolve_left usable).resolve_left notOverlong

/-- A blocked step fails and changes nothing. -/
theorem IsPlain.perform_of_blocked
    (plain : step.IsPlain)
    (rootAt : RootAt root fileSystem base)
    (surroundingIsDirectory :
      fileSystem.entryAt? (step.surrounding base) = some .directory)
    (surroundingUsable : step.HasUsableSurrounding)
    (blocked :
      NameIsUnusable step.name ∨ step.IsOverlong root ∨
        step.IsBlockedBy (fileSystem.entryAt? (step.place base))) :
    ∃ reason,
      step.perform root fileSystem = ⟨fileSystem, some reason⟩ := by
  have notFree :
      ∀ {name surrounding},
        fileSystem.LeadsTo (step.path root) name surrounding →
        step.IsBlockedBy (fileSystem.entryAt? (name :: surrounding)) :=
    plain.isBlockedBy_of_leadsTo rootAt surroundingIsDirectory
      surroundingUsable blocked
  cases step with
  | makeRoot =>
      exact plain.elim
  | openLanguage language =>
      cases made :
          fileSystem.createDirectory
            (Layout.directory root language) with
      | ok after =>
          obtain ⟨name, surrounding, leads, isFree, _⟩ :=
            FileSystem.exists_of_createDirectory_eq_ok made
          exact absurd isFree (notFree leads).1
      | error reason =>
          -- No parent is missing, so no parent is made before the refusal.
          have notMissing : reason ≠ .notFound := by
            rintro rfl
            exact FileSystem.createDirectory_ne_notFound
              plain.text_path_ne_empty
              (plain.walk_dropLast rootAt surroundingIsDirectory
                surroundingUsable)
              made
          have notDirectory :
              fileSystem.isDirectory (Layout.directory root language) =
                false := by
            rw [← Bool.not_eq_true]
            intro isDirectory
            obtain ⟨leads, found⟩ :=
              plain.leadsTo_of_isDirectory rootAt surroundingIsDirectory
                surroundingUsable isDirectory
            exact (notFree leads).2 found
          exact ⟨reason,
            FileSystem.createDirectories_of_refused
              plain.parent?_path_ne_none made notMissing notDirectory⟩
  | writeArtifact query =>
      cases wrote :
          fileSystem.writeFile
            (Layout.file root query.language query.category)
            query.expression.toUTF8 with
      | ok after =>
          obtain ⟨name, surrounding, leads, _, notDirectory, _⟩ :=
            FileSystem.exists_of_writeFile_eq_ok wrote
          exact absurd (notFree leads) notDirectory
      | error reason =>
          exact ⟨reason, by rw [perform, wrote]; rfl⟩

/-- A step that nothing stands in the way of puts what it is for in its place. -/
theorem IsPlain.perform_of_free
    (plain : step.IsPlain)
    (rootAt : RootAt root fileSystem base)
    (surroundingIsDirectory :
      fileSystem.entryAt? (step.surrounding base) = some .directory)
    (surroundingUsable : step.HasUsableSurrounding)
    (usable : ¬ NameIsUnusable step.name)
    (notOverlong : ¬ step.IsOverlong root)
    (free :
      ¬ step.IsBlockedBy (fileSystem.entryAt? (step.place base))) :
    ∃ after,
      step.perform root fileSystem = ⟨after, none⟩ ∧
        fileSystem.Puts after (step.place base)
          (step.leaves (fileSystem.entryAt? (step.place base))) := by
  have leads :=
    plain.leadsTo rootAt surroundingIsDirectory surroundingUsable
      usable notOverlong
  cases step with
  | makeRoot =>
      exact plain.elim
  | openLanguage language =>
      cases found : fileSystem.entryAt? (language.name :: base) with
      | none =>
          exact leads.createDirectories_of_free found
      | some entry =>
          have isDirectory : entry = .directory := by
            by_contra notDirectory
            refine free ⟨?_, ?_⟩
            · exact Option.ne_none_iff_exists'.mpr ⟨entry, found⟩
            · intro foundDirectory
              exact notDirectory
                (Option.some.inj (found.symm.trans foundDirectory))
          subst isDirectory
          exact ⟨fileSystem,
            FileSystem.createDirectories_of_hasDirectory
              (Or.inr (leads.isDirectory_eq_true_iff.mpr found)),
            .refl found⟩
  | writeArtifact query =>
      obtain ⟨after, wrote, puts⟩ :=
        leads.exists_writeFile_eq_ok plain.endsInSlash_path free
          query.expression.toUTF8
      have succeeded :
          fileSystem.writeFile
              (Layout.file root query.language query.category)
              query.expression.toUTF8 = .ok after :=
        wrote
      exact ⟨after, by rw [perform, succeeded]; rfl, puts⟩

end Plain

end Step

end QueryPack
