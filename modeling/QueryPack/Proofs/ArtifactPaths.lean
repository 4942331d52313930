import Mathlib.Data.List.Infix
import QueryPack.Proofs.PathSegments

namespace QueryPack

/-!
# Reading a pair off the path of its artifact

Joining puts a slash between two texts, or none if the left one is empty or
already ends in one. Seen as parts between slashes these cases are one law: a
join keeps the stem of the left path and continues with the parts of the right
one. So the path of an artifact is the stem of the root, the name of the
language unless it is empty, and the file name; `Layout.pair?` reads the pair
back. As texts, the paths of pairs without slashes differ under every root,
also where two of them mean the same file.
-/

namespace Path

/-- The parts of the path between its slashes. -/
def parts (path : Path) : List (List Char) :=
  splitAtSlashes path.text.toList

/-- The path is empty or ends in a slash, so its last part is still to come. -/
def leavesOpen (path : Path) : Bool :=
  path.text = "" || path.endsInSlash

/-- The parts that stay in front of whatever is joined to the path. -/
def stem (path : Path) : List (List Char) :=
  if path.leavesOpen then
    path.parts.dropLast
  else
    path.parts

theorem parts_ne_nil
    (path : Path) :
    path.parts ≠ [] :=
  splitAtSlashes_ne_nil path.text.toList

/-- Different paths have different parts. -/
theorem parts_injective :
    Function.Injective parts := by
  rintro ⟨text⟩ ⟨other⟩ sameParts
  have sameCharacters : text.toList = other.toList := by
    rw [← intercalate_splitAtSlashes text.toList,
      ← intercalate_splitAtSlashes other.toList]
    exact congrArg _ sameParts
  rw [String.toList_injective sameCharacters]

theorem parts_of_noSlash
    {text : String}
    (noSlash : '/' ∉ text.toList) :
    parts ⟨text⟩ = [text.toList] :=
  splitAtSlashes_of_noSlash noSlash

/-- Without a slash, only an empty text leaves its one part open. -/
theorem stem_of_noSlash
    {text : String}
    (noSlash : '/' ∉ text.toList) :
    stem ⟨text⟩ = if text = "" then [] else [text.toList] := by
  rw [stem, leavesOpen, parts_of_noSlash noSlash,
    endsInSlash_of_noSlash noSlash]
  simp

/-- A join keeps the stem and continues with the parts of what is joined. -/
theorem parts_join
    (path : Path)
    {part : String}
    (relative : isAbsolute ⟨part⟩ = false) :
    (path.join part).parts = path.stem ++ parts ⟨part⟩ := by
  rw [join, if_neg (by simp [relative]), stem, leavesOpen]
  split
  next isOpen =>
    -- The last part is empty, and the first one that is joined takes its place.
    rcases Bool.or_eq_true_iff.mp isOpen with isEmpty | slashLast
    · have pathIsEmpty : path.text = "" := by
        simpa using isEmpty
      simp [parts, pathIsEmpty, splitAtSlashes]
    · obtain ⟨front, frontShape⟩ :
          ∃ front, path.text.toList = front ++ ['/'] := by
        apply List.getLast?_eq_some_iff.mp
        simpa [endsInSlash] using slashLast
      simp only [parts, String.toList_append, frontShape, List.append_assoc,
        List.singleton_append, splitAtSlashes_append_slash]
      simp [splitAtSlashes]
  next =>
    simp only [parts, String.toList_append, List.append_assoc]
    exact splitAtSlashes_append_slash _ _

/-- A join leaves its last part open exactly if what is joined does. -/
theorem leavesOpen_join
    (path : Path)
    {part : String}
    (relative : isAbsolute ⟨part⟩ = false) :
    (path.join part).leavesOpen = leavesOpen ⟨part⟩ := by
  by_cases isEmpty : part = ""
  · subst isEmpty
    rw [join, if_neg (by simp [relative])]
    split
    next isOpen =>
      simpa [leavesOpen] using isOpen
    next =>
      simp [leavesOpen, endsInSlash]
  · have joinNonempty : (path.join part).text ≠ "" := by
      intro joinIsEmpty
      obtain ⟨separator, textShape, _⟩ :=
        exists_separator_join path relative
      simp [joinIsEmpty, isEmpty] at textShape
    simp [leavesOpen, joinNonempty, isEmpty,
      endsInSlash_join path relative isEmpty]

/-- What is joined adds its own stem to the stem of the path. -/
theorem stem_join
    (path : Path)
    {part : String}
    (relative : isAbsolute ⟨part⟩ = false) :
    (path.join part).stem = path.stem ++ stem ⟨part⟩ := by
  rw [stem, leavesOpen_join path relative, parts_join path relative]
  split
  next isOpen =>
    have partStem : stem ⟨part⟩ = (parts ⟨part⟩).dropLast :=
      if_pos isOpen
    rw [partStem, List.dropLast_append_of_ne_nil (parts_ne_nil ⟨part⟩)]
  next isClosed =>
    have partStem : stem ⟨part⟩ = parts ⟨part⟩ :=
      if_neg isClosed
    rw [partStem]

end Path

namespace Category

/-- The category whose file has the given name. -/
def ofFileName? (fileName : List Char) : Option Category :=
  (fileName.dropSuffix? ".scm".toList).map fun name => ⟨String.ofList name⟩

theorem ofFileName?_eq_some_iff
    {fileName : List Char}
    {category : Category} :
    ofFileName? fileName = some category ↔
      fileName = category.fileName.toList := by
  simp only [ofFileName?, Option.map_eq_some_iff,
    List.dropSuffix?_eq_some_iff, Category.fileName,
    String.toList_append, beq_iff_eq]
  constructor
  · rintro ⟨name, ⟨extension, rfl, rfl⟩, rfl⟩
    simp
  · rintro rfl
    exact ⟨category.name.toList, ⟨_, rfl, rfl⟩, by rw [String.ofList_toList]⟩

end Category

namespace Language

/--
The language that these parts lead to from a root: the one without a name if
there are none. An empty part is never written.
-/
def ofParts? : List (List Char) → Option Language
  | [] => some ⟨""⟩
  | [[]] => none
  | [name] => some ⟨String.ofList name⟩
  | _ => none

theorem ofParts?_eq_some_iff
    {parts : List (List Char)}
    {language : Language}
    (noSlash : '/' ∉ language.name.toList) :
    ofParts? parts = some language ↔ parts = Path.stem ⟨language.name⟩ := by
  rw [Path.stem_of_noSlash noSlash]
  obtain ⟨name⟩ := language
  fun_cases ofParts? parts with
  | case1 =>
      simp [eq_comm]
  | case2 =>
      by_cases isEmpty : name = ""
      · simp [isEmpty]
      · simp [isEmpty]
  | case3 part nonempty =>
      have ofListShape : String.ofList part = name ↔ part = name.toList :=
        ⟨fun same => by rw [← same, String.toList_ofList],
          fun same => by rw [same, String.ofList_toList]⟩
      by_cases isEmpty : name = ""
      · simpa [isEmpty] using nonempty
      · simp [isEmpty, ofListShape]
  | case4 _ noPart noEmptyPart noSinglePart =>
      by_cases isEmpty : name = ""
      · simpa [isEmpty] using noPart
      · simpa [isEmpty] using noSinglePart name.toList

end Language

namespace Layout

/-- The pair whose artifact has this path under a root, if it is one's. -/
def pair? (root path : Path) : Option (Language × Category) := do
  let below ← path.parts.dropPrefix? root.stem
  let fileName ← below.getLast?
  let language ← Language.ofParts? below.dropLast
  let category ← Category.ofFileName? fileName
  return (language, category)

/-- What is read off a path, in terms of its parts. -/
theorem pair?_eq_some_iff_parts
    {root path : Path}
    {language : Language}
    {category : Category} :
    pair? root path = some (language, category) ↔
      ∃ front fileName,
        path.parts = root.stem ++ (front ++ [fileName]) ∧
          Language.ofParts? front = some language ∧
            Category.ofFileName? fileName = some category := by
  simp only [pair?, Option.bind_eq_bind, Option.bind_eq_some_iff,
    Option.pure_def, Option.some.injEq, Prod.mk.injEq,
    List.dropPrefix?_eq_some_iff, List.getLast?_eq_some_iff, beq_iff_eq]
  constructor
  · rintro ⟨_, ⟨_, partsShape, rfl⟩, fileName, ⟨front, rfl⟩, _, isLanguage,
      _, isCategory, rfl, rfl⟩
    rw [List.dropLast_concat] at isLanguage
    exact ⟨front, fileName, partsShape, isLanguage, isCategory⟩
  · rintro ⟨front, fileName, partsShape, isLanguage, isCategory⟩
    refine ⟨front ++ [fileName], ⟨_, partsShape, rfl⟩, fileName, ⟨front, rfl⟩,
      language, ?_, category, isCategory, rfl, rfl⟩
    rw [List.dropLast_concat]
    exact isLanguage

section SlashFree

variable
    (root : Path)
    {language : Language}
    {category : Category}

/-- The path of an artifact, part by part. -/
theorem parts_file
    (noSlash : '/' ∉ language.name.toList)
    (plain : category.IsPlain) :
    (file root language category).parts =
      root.stem ++
        (Path.stem ⟨language.name⟩ ++ [category.fileName.toList]) := by
  rw [file, Path.parts_join _ plain.relative_fileName,
    Path.parts_of_noSlash plain.noSlash_fileName, directory,
    Path.stem_join _ (Path.isAbsolute_of_noSlash noSlash),
    List.append_assoc]

/-- A pair is read off the path of its artifact and off no other path. -/
theorem pair?_eq_some_iff
    {path : Path}
    (noSlash : '/' ∉ language.name.toList)
    (plain : category.IsPlain) :
    pair? root path = some (language, category) ↔
      path = file root language category := by
  rw [← Path.parts_injective.eq_iff, parts_file root noSlash plain,
    pair?_eq_some_iff_parts]
  simp only [Language.ofParts?_eq_some_iff noSlash,
    Category.ofFileName?_eq_some_iff]
  constructor
  · rintro ⟨_, _, partsShape, rfl, rfl⟩
    exact partsShape
  · intro partsShape
    exact ⟨_, _, partsShape, rfl, rfl⟩

/-- The path of an artifact continues the path of its directory. -/
theorem text_directory_isPrefix
    (plain : category.IsPlain) :
    (directory root language).text.toList <+:
      (file root language category).text.toList := by
  obtain ⟨separator, textShape, _⟩ :=
    Path.exists_separator_join (directory root language)
      plain.relative_fileName
  rw [file, textShape, List.append_assoc]
  exact List.prefix_append _ _

end SlashFree

/--
What the path of an artifact tells under its root. It continues the path of the
language's directory and ends in the name of the category's file, which is one
step further. It is the only path that the pair is read off, and the path of
no other pair.
-/
structure TellsPair
    (root path : Path)
    (language : Language)
    (category : Category) : Prop where
  directory_isPrefix :
    (directory root language).text.toList <+: path.text.toList
  last_part_eq :
    path.parts.getLast? = some category.fileName.toList
  segments_eq :
    path.segments =
      (directory root language).segments ++ [.name category.fileName]
  pair?_iff :
    ∀ {other : Path},
      pair? root other = some (language, category) ↔ other = path
  pair_eq :
    ∀ {otherLanguage : Language} {otherCategory : Category},
      '/' ∉ otherLanguage.name.toList →
      '/' ∉ otherCategory.name.toList →
      file root otherLanguage otherCategory = path →
      otherLanguage = language ∧ otherCategory = category

/--
Under every root, the path of an artifact tells the language and the category,
whatever their names are, as long as these hold no slash.
-/
theorem file_tellsPair
    (root : Path)
    {language : Language}
    {category : Category}
    (languageNoSlash : '/' ∉ language.name.toList)
    (categoryNoSlash : '/' ∉ category.name.toList) :
    TellsPair root (file root language category) language category where
  directory_isPrefix :=
    text_directory_isPrefix root ⟨categoryNoSlash⟩
  last_part_eq := by
    rw [parts_file root languageNoSlash ⟨categoryNoSlash⟩,
      ← List.append_assoc, List.getLast?_concat]
  segments_eq :=
    segments_file_eq_directory root ⟨categoryNoSlash⟩
  pair?_iff :=
    pair?_eq_some_iff root languageNoSlash ⟨categoryNoSlash⟩
  pair_eq := by
    intro otherLanguage otherCategory otherLanguageNoSlash
      otherCategoryNoSlash samePath
    -- Reading is a function, so both pairs are what one path reads as.
    have readsOther :
        pair? root (file root language category) =
          some (otherLanguage, otherCategory) :=
      (pair?_eq_some_iff root otherLanguageNoSlash
        ⟨otherCategoryNoSlash⟩).mpr samePath.symm
    have readsBack :
        pair? root (file root language category) =
          some (language, category) :=
      (pair?_eq_some_iff root languageNoSlash ⟨categoryNoSlash⟩).mpr rfl
    have samePair :
        (otherLanguage, otherCategory) = (language, category) :=
      Option.some.inj (readsOther.symm.trans readsBack)
    exact Prod.mk.inj samePair

/-- Names that are empty or made of dots are told as well as any. -/
theorem file_tellsPair_dots :
    let root : Path := ⟨"out/."⟩
    let language : Language := ⟨""⟩
    let category : Category := ⟨".."⟩
    ('/' ∉ language.name.toList ∧ '/' ∉ category.name.toList) ∧
      file root language category = ⟨"out/./...scm"⟩ ∧
      TellsPair root ⟨"out/./...scm"⟩ language category := by
  intro root language category
  have noSlashes :
      '/' ∉ language.name.toList ∧ '/' ∉ category.name.toList := by
    decide
  have pathShape : file root language category = ⟨"out/./...scm"⟩ := by
    decide
  refine ⟨noSlashes, pathShape, ?_⟩
  rw [← pathShape]
  exact file_tellsPair root noSlashes.1 noSlashes.2

/-- A slash may be part of either name, so pairs with one may share a path. -/
example :
    file ⟨"out"⟩ ⟨"web/css"⟩ ⟨"functions"⟩ =
      file ⟨"out"⟩ ⟨"web"⟩ ⟨"css/functions"⟩ := by
  decide

end Layout

end QueryPack
