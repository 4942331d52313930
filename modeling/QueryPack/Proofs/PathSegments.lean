import QueryPack.Layout

namespace QueryPack

/-!
# The segments of joined paths

Joining works on text and walking works on segments. This module connects the
two: joining a relative part appends its segments and keeps the place where the
path begins. A language or category name that is plain therefore adds exactly
one step, the one to the entry of that name. A path without a parent takes no
step away from where it begins.
-/

/--
A language name that can only mean an entry of the directory it is joined to.
-/
structure Language.IsPlain (language : Language) : Prop where
  nonempty :
    language.name ≠ ""
  noSlash :
    '/' ∉ language.name.toList
  notCurrent :
    language.name ≠ "."
  notParent :
    language.name ≠ ".."

/-- A category name that stays within the directory of its language. -/
structure Category.IsPlain (category : Category) : Prop where
  noSlash :
    '/' ∉ category.name.toList

instance (language : Language) : Decidable language.IsPlain :=
  decidable_of_iff
    (language.name ≠ "" ∧ '/' ∉ language.name.toList ∧
      language.name ≠ "." ∧ language.name ≠ "..")
    ⟨fun ⟨nonempty, noSlash, notCurrent, notParent⟩ =>
      ⟨nonempty, noSlash, notCurrent, notParent⟩,
      fun plain =>
        ⟨plain.nonempty, plain.noSlash, plain.notCurrent,
          plain.notParent⟩⟩

instance (category : Category) : Decidable category.IsPlain :=
  decidable_of_iff ('/' ∉ category.name.toList)
    ⟨fun noSlash => ⟨noSlash⟩, fun plain => plain.noSlash⟩

namespace Path

/-- Splitting at slashes is the splitting of lists at one of their elements. -/
theorem splitAtSlashes_eq_splitOn
    (text : List Char) :
    splitAtSlashes text = text.splitOn '/' := by
  induction text with
  | nil =>
      rfl
  | cons character rest inductionHypothesis =>
      obtain ⟨part, parts, restShape⟩ :=
        List.exists_cons_of_ne_nil (List.splitOn_ne_nil '/' rest)
      rw [splitAtSlashes, List.splitOn_cons_eq_if_modifyHead,
        inductionHypothesis, restShape]
      simp

/-- There is always a part before the first slash. -/
theorem splitAtSlashes_ne_nil
    (text : List Char) :
    splitAtSlashes text ≠ [] := by
  rw [splitAtSlashes_eq_splitOn]
  exact List.splitOn_ne_nil '/' text

/-- A slash ends one part and begins the next. -/
theorem splitAtSlashes_append_slash
    (front back : List Char) :
    splitAtSlashes (front ++ '/' :: back) =
      splitAtSlashes front ++ splitAtSlashes back := by
  simp only [splitAtSlashes_eq_splitOn]
  exact List.splitOn_append_cons_self front back

/-- Text without a slash is one part. -/
theorem splitAtSlashes_of_noSlash
    {text : List Char}
    (noSlash : '/' ∉ text) :
    splitAtSlashes text = [text] := by
  rw [splitAtSlashes_eq_splitOn]
  exact List.splitOn_eq_singleton noSlash

/-- A text is its parts with slashes between them. -/
theorem intercalate_splitAtSlashes
    (text : List Char) :
    ['/'].intercalate (splitAtSlashes text) = text := by
  rw [splitAtSlashes_eq_splitOn]
  exact List.intercalate_splitOn '/'

/-- The segments of two texts with a slash between them. -/
theorem filterMap_splitAtSlashes_append_slash
    (front back : List Char) :
    (splitAtSlashes (front ++ '/' :: back)).filterMap Segment.ofPart? =
      (splitAtSlashes front).filterMap Segment.ofPart? ++
        (splitAtSlashes back).filterMap Segment.ofPart? := by
  rw [splitAtSlashes_append_slash, List.filterMap_append]

/-- A slash at the end adds no segment. -/
theorem filterMap_splitAtSlashes_slash
    (front : List Char) :
    (splitAtSlashes (front ++ ['/'])).filterMap Segment.ofPart? =
      (splitAtSlashes front).filterMap Segment.ofPart? := by
  rw [filterMap_splitAtSlashes_append_slash]
  simp [splitAtSlashes, Segment.ofPart?]

/--
The text of a join with a relative part: nothing or one slash stands between,
and nothing only after an empty path or after a slash.
-/
theorem exists_separator_join
    (path : Path)
    {part : String}
    (relative : isAbsolute ⟨part⟩ = false) :
    ∃ separator,
      (path.join part).text.toList =
          path.text.toList ++ separator ++ part.toList ∧
        (separator = ['/'] ∨
          separator = [] ∧
            (path.text.toList = [] ∨
              ∃ front, path.text.toList = front ++ ['/'])) := by
  unfold join
  rw [if_neg (by simp [relative])]
  split
  next noSeparator =>
    refine ⟨[], by simp, Or.inr ⟨rfl, ?_⟩⟩
    rcases Bool.or_eq_true_iff.mp noSeparator with isEmpty | slashLast
    · exact Or.inl (by simpa using isEmpty)
    · refine Or.inr ?_
      have lastIsSlash :
          path.text.toList.getLast? = some '/' := by
        simpa [endsInSlash] using slashLast
      exact List.getLast?_eq_some_iff.mp lastIsSlash
  next =>
    exact ⟨['/'], by simp, Or.inl rfl⟩

/-- A join with a relative part has room for both texts. -/
theorem utf8ByteSize_join_ge
    (path : Path)
    {part : String}
    (relative : isAbsolute ⟨part⟩ = false) :
    path.text.utf8ByteSize + part.utf8ByteSize ≤
      (path.join part).text.utf8ByteSize := by
  unfold join
  rw [if_neg (by simp [relative])]
  split
  next => exact Nat.le_of_eq String.utf8ByteSize_append.symm
  next =>
    rw [String.utf8ByteSize_append, String.utf8ByteSize_append]
    omega

/-- Joining a relative part appends its segments. -/
theorem segments_join
    (path : Path)
    {part : String}
    (relative : isAbsolute ⟨part⟩ = false) :
    (path.join part).segments =
      path.segments ++ segments ⟨part⟩ := by
  obtain ⟨separator, textShape, isSlash | ⟨isEmpty, pathShape⟩⟩ :=
    exists_separator_join path relative
  · subst isSlash
    simp only [segments, textShape, List.append_assoc,
      List.cons_append, List.nil_append]
    exact filterMap_splitAtSlashes_append_slash _ _
  · subst isEmpty
    rcases pathShape with pathIsEmpty | ⟨front, slashLast⟩
    · simp [segments, textShape, pathIsEmpty,
        splitAtSlashes, Segment.ofPart?]
    · simp only [segments, textShape, slashLast,
        filterMap_splitAtSlashes_slash]
      rw [← filterMap_splitAtSlashes_append_slash]
      simp

/-- Joining a relative part keeps where the path begins. -/
theorem isAbsolute_join
    (path : Path)
    {part : String}
    (relative : isAbsolute ⟨part⟩ = false) :
    (path.join part).isAbsolute = path.isAbsolute := by
  obtain ⟨separator, textShape, separatorShape⟩ :=
    exists_separator_join path relative
  cases pathShape : path.text.toList with
  | nil =>
      unfold join
      rw [if_neg (by simp [relative])]
      have pathIsEmpty : path.text = "" :=
        String.toList_eq_nil_iff.mp pathShape
      rw [if_pos (by simp [pathIsEmpty])]
      simpa [isAbsolute, pathIsEmpty] using relative
  | cons first rest =>
      simp [isAbsolute, textShape, pathShape]

/-- The end of a join is the end of a part that is not empty. -/
theorem endsInSlash_join
    (path : Path)
    {part : String}
    (relative : isAbsolute ⟨part⟩ = false)
    (nonempty : part ≠ "") :
    (path.join part).endsInSlash = endsInSlash ⟨part⟩ := by
  obtain ⟨separator, textShape, _⟩ :=
    exists_separator_join path relative
  have partNonempty : part.toList ≠ [] :=
    fun isEmpty => nonempty (String.toList_eq_nil_iff.mp isEmpty)
  obtain ⟨last, lastShape⟩ :=
    Option.ne_none_iff_exists'.mp
      (fun noLast => partNonempty (List.getLast?_eq_none_iff.mp noLast))
  simp [endsInSlash, textShape, List.getLast?_append, lastShape]

/-- A join holds the characters of both sides, and at most a slash more. -/
theorem mem_join
    (path : Path)
    {part : String}
    (relative : isAbsolute ⟨part⟩ = false)
    {character : Char}
    (notSlash : character ≠ '/') :
    character ∈ (path.join part).text.toList ↔
      character ∈ path.text.toList ∨ character ∈ part.toList := by
  obtain ⟨separator, textShape, separatorShape⟩ :=
    exists_separator_join path relative
  have notSeparator : character ∉ separator := by
    rcases separatorShape with isSlash | ⟨isEmpty, _⟩
    · simp [isSlash, notSlash]
    · simp [isEmpty]
  simp [textShape, notSeparator]

/-- Text without a slash does not begin at the root. -/
theorem isAbsolute_of_noSlash
    {text : String}
    (noSlash : '/' ∉ text.toList) :
    isAbsolute ⟨text⟩ = false := by
  cases textShape : text.toList with
  | nil =>
      simp [isAbsolute, textShape]
  | cons first rest =>
      have firstNotSlash : first ≠ '/' := by
        rintro rfl
        simp [textShape] at noSlash
      simp [isAbsolute, textShape, firstNotSlash]

/-- Text without a slash does not insist on a directory. -/
theorem endsInSlash_of_noSlash
    {text : String}
    (noSlash : '/' ∉ text.toList) :
    endsInSlash ⟨text⟩ = false := by
  cases lastShape : text.toList.getLast? with
  | none =>
      simp [endsInSlash, lastShape]
  | some last =>
      have lastNotSlash : last ≠ '/' := by
        rintro rfl
        exact noSlash (List.mem_of_getLast? lastShape)
      simp [endsInSlash, lastShape, lastNotSlash]

/-- A part that is neither empty nor made of dots alone names an entry. -/
theorem segments_of_noSlash
    {text : String}
    (noSlash : '/' ∉ text.toList)
    (nonempty : text ≠ "")
    (notCurrent : text ≠ ".")
    (notParent : text ≠ "..") :
    segments ⟨text⟩ = [.name text] := by
  simp only [segments, splitAtSlashes_of_noSlash noSlash]
  have partShape : Segment.ofPart? text.toList = some (.name text) := by
    unfold Segment.ofPart?
    split
    next isEmpty =>
      exact absurd (String.toList_eq_nil_iff.mp isEmpty) nonempty
    next isCurrent =>
      exact absurd (String.toList_injective isCurrent) notCurrent
    next isParent =>
      exact absurd (String.toList_injective isParent) notParent
    next =>
      rw [String.ofList_toList]
  simp [partShape]

/-- Every character of a path that comes down to nothing is a slash or a dot. -/
theorem mem_of_trimBack_eq_nil
    {body : List Char}
    (trimmed : trimBack body = [])
    {character : Char}
    (member : character ∈ body) :
    character = '/' ∨ character = '.' := by
  fun_induction trimBack body with
  | case1 rest inductionHypothesis =>
      rcases List.mem_cons.mp member with isSlash | inRest
      · exact Or.inl isSlash
      · exact inductionHypothesis trimmed inRest
  | case2 rest inductionHypothesis =>
      rcases List.mem_cons.mp member with isDot | inRest
      · exact Or.inr isDot
      · rcases List.mem_cons.mp inRest with isSlash | inRest
        · exact Or.inl isSlash
        · exact inductionHypothesis trimmed inRest
  | case3 =>
      exact Or.inr (by simpa using member)
  | case4 =>
      subst trimmed
      simp at member

/-- What comes down to nothing from the back only stays where it is. -/
theorem segments_of_trimBack_eq_nil
    {body : List Char}
    (trimmed : trimBack body = [])
    {segment : Segment}
    (member :
      segment ∈
        (splitAtSlashes body.reverse).filterMap Segment.ofPart?) :
    segment = .current := by
  fun_induction trimBack body with
  | case1 rest inductionHypothesis =>
      rw [List.reverse_cons, filterMap_splitAtSlashes_slash] at member
      exact inductionHypothesis trimmed member
  | case2 rest inductionHypothesis =>
      have reverseShape :
          ('.' :: '/' :: rest).reverse =
            rest.reverse ++ '/' :: ['.'] := by
        simp
      rw [reverseShape, filterMap_splitAtSlashes_append_slash] at member
      rcases List.mem_append.mp member with inRest | isDot
      · exact inductionHypothesis trimmed inRest
      · simpa [splitAtSlashes, Segment.ofPart?] using isDot
  | case3 =>
      simpa [splitAtSlashes, Segment.ofPart?] using member
  | case4 =>
      subst trimmed
      simp [splitAtSlashes, Segment.ofPart?] at member

/-- A path without a parent is slashes and dots that take no step anywhere. -/
theorem body_of_parent?_eq_none
    {path : Path}
    (parentless : path.parent? = none) :
    ∃ body,
      trimBack body.reverse = [] ∧
        (path.text.toList = body ∨ path.text.toList = '/' :: body) := by
  unfold parent? at parentless
  split at parentless
  next front body parts =>
    split at parentless
    next trimmed =>
      refine ⟨body, trimmed, ?_⟩
      split at parentless
      next =>
        cases parentless
      next frontNotDot =>
        revert parts frontNotDot
        fun_cases splitFront path.text.toList with
        | case1 rest =>
            intro parts _
            injection parts with _ sameBody
            exact Or.inr (by rw [sameBody])
        | case2 =>
            intro parts frontNotDot
            injection parts with sameFront _
            exact absurd sameFront.symm frontNotDot
        | case3 rest =>
            intro parts frontNotDot
            injection parts with sameFront _
            exact absurd sameFront.symm frontNotDot
        | case4 =>
            intro parts _
            injection parts with _ sameBody
            exact Or.inl sameBody
    next =>
      cases parentless

/-- A path without a parent stays where it begins. -/
theorem segments_of_parent?_eq_none
    {path : Path}
    (parentless : path.parent? = none)
    {segment : Segment}
    (member : segment ∈ path.segments) :
    segment = .current := by
  obtain ⟨body, trimmed, isBody | isAbsoluteBody⟩ :=
    body_of_parent?_eq_none parentless
  · apply segments_of_trimBack_eq_nil trimmed
    simpa [segments, isBody] using member
  · apply segments_of_trimBack_eq_nil trimmed
    rw [List.reverse_reverse]
    rw [segments, isAbsoluteBody, ← List.nil_append ('/' :: body),
      filterMap_splitAtSlashes_append_slash] at member
    simpa [splitAtSlashes, Segment.ofPart?] using member

/-- A path without a parent holds no null character. -/
theorem noNul_of_parent?_eq_none
    {path : Path}
    (parentless : path.parent? = none) :
    '\x00' ∉ path.text.toList := by
  intro nulMember
  obtain ⟨body, trimmed, bodyShape⟩ :=
    body_of_parent?_eq_none parentless
  have nulInBody : '\x00' ∈ body := by
    rcases bodyShape with isBody | isAbsoluteBody
    · exact isBody ▸ nulMember
    · rw [isAbsoluteBody, List.mem_cons] at nulMember
      exact nulMember.resolve_left (by decide)
  have nulIsPunctuation :=
    mem_of_trimBack_eq_nil trimmed (List.mem_reverse.mpr nulInBody)
  revert nulIsPunctuation
  decide

end Path

namespace Category

/-- A file name ends in its extension, so it is never empty or made of dots. -/
theorem fileName_ne_of_length_lt
    (category : Category)
    {text : String}
    (short : text.toList.length < 4) :
    category.fileName ≠ text := by
  rintro rfl
  have extension : ".scm".toList.length = 4 :=
    rfl
  rw [fileName, String.toList_append, List.length_append] at short
  omega

/-- Different categories have different file names. -/
theorem fileName_injective
    {first second : Category}
    (same : first.fileName = second.fileName) :
    first = second := by
  rcases first with ⟨firstName⟩
  rcases second with ⟨secondName⟩
  have sameCharacters := congrArg String.toList same
  simp only [fileName, String.toList_append] at sameCharacters
  have sameName := List.append_cancel_right sameCharacters
  rw [String.toList_injective sameName]

namespace IsPlain

/-- The file name of a plain category holds no slash. -/
theorem noSlash_fileName
    {category : Category}
    (plain : category.IsPlain) :
    '/' ∉ category.fileName.toList := by
  simp only [fileName, String.toList_append, List.mem_append, not_or]
  exact ⟨plain.noSlash, by decide⟩

/-- The file name of a plain category does not begin at the root. -/
theorem relative_fileName
    {category : Category}
    (plain : category.IsPlain) :
    Path.isAbsolute ⟨category.fileName⟩ = false :=
  Path.isAbsolute_of_noSlash plain.noSlash_fileName

/-- The file of a plain category is one step from the directory around it. -/
theorem segments_fileName
    {category : Category}
    (plain : category.IsPlain) :
    Path.segments ⟨category.fileName⟩ = [.name category.fileName] :=
  Path.segments_of_noSlash plain.noSlash_fileName
    (category.fileName_ne_of_length_lt (by decide))
    (category.fileName_ne_of_length_lt (by decide))
    (category.fileName_ne_of_length_lt (by decide))

end IsPlain

end Category

namespace Language.IsPlain

/-- The name of a plain language does not begin at the root. -/
theorem relative_name
    {language : Language}
    (plain : language.IsPlain) :
    Path.isAbsolute ⟨language.name⟩ = false :=
  Path.isAbsolute_of_noSlash plain.noSlash

/-- The directory of a plain language is one step from the directory around it. -/
theorem segments_name
    {language : Language}
    (plain : language.IsPlain) :
    Path.segments ⟨language.name⟩ = [.name language.name] :=
  Path.segments_of_noSlash plain.noSlash plain.nonempty
    plain.notCurrent plain.notParent

end Language.IsPlain

namespace Layout

section Plain

variable
    (root : Path)
    {language : Language}
    {category : Category}

/-- A plain language adds one step to the root. -/
theorem segments_directory
    (plain : language.IsPlain) :
    (directory root language).segments =
      root.segments ++ [.name language.name] := by
  rw [directory, Path.segments_join root plain.relative_name,
    plain.segments_name]

/-- The directory of a plain language begins where the root begins. -/
theorem isAbsolute_directory
    (plain : language.IsPlain) :
    (directory root language).isAbsolute = root.isAbsolute :=
  Path.isAbsolute_join root plain.relative_name

theorem endsInSlash_directory
    (plain : language.IsPlain) :
    (directory root language).endsInSlash = false :=
  (Path.endsInSlash_join root plain.relative_name plain.nonempty).trans
    (Path.endsInSlash_of_noSlash plain.noSlash)

/-- A plain category adds one step to the directory of its language. -/
theorem segments_file_eq_directory
    (plain : category.IsPlain) :
    (file root language category).segments =
      (directory root language).segments ++ [.name category.fileName] := by
  rw [file, Path.segments_join _ plain.relative_fileName,
    plain.segments_fileName]

/-- A plain pair adds two steps to the root. -/
theorem segments_file
    (plainLanguage : language.IsPlain)
    (plainCategory : category.IsPlain) :
    (file root language category).segments =
      root.segments ++ [.name language.name, .name category.fileName] := by
  rw [segments_file_eq_directory root plainCategory,
    segments_directory root plainLanguage, List.append_assoc]
  rfl

/-- The file of a plain pair begins where the root begins. -/
theorem isAbsolute_file
    (plainLanguage : language.IsPlain)
    (plainCategory : category.IsPlain) :
    (file root language category).isAbsolute = root.isAbsolute :=
  (Path.isAbsolute_join _ plainCategory.relative_fileName).trans
    (isAbsolute_directory root plainLanguage)

/-- The file of a plain category does not insist on a directory. -/
theorem endsInSlash_file
    (plainCategory : category.IsPlain) :
    (file root language category).endsInSlash = false :=
  (Path.endsInSlash_join _ plainCategory.relative_fileName
    (category.fileName_ne_of_length_lt (by decide))).trans
      (Path.endsInSlash_of_noSlash plainCategory.noSlash_fileName)

end Plain

end Layout

end QueryPack
