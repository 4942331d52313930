namespace QueryPack

/-!
# Paths

A path is text in which slashes separate segments. Nothing is normalised:
joining and taking the parent work on the text, and only a file system gives
the segments a meaning.
-/

/-- A path as it is written. -/
structure Path where
  text : String
  deriving Repr, DecidableEq

/-- What one step of a path does. -/
inductive Segment where
  /-- A single dot: stay. -/
  | current
  /-- Two dots: go up. -/
  | parent
  /-- Anything else: go to the entry of this name. -/
  | name (name : String)
  deriving Repr, DecidableEq

namespace Segment

/-- The step that a part of a path stands for; an empty part is no step. -/
def ofPart? (part : List Char) : Option Segment :=
  match part with
  | [] => none
  | ['.'] => some current
  | ['.', '.'] => some parent
  | _ => some (name (String.ofList part))

end Segment

namespace Path

/-- The parts of a text between its slashes; one more than there are slashes. -/
def splitAtSlashes : List Char → List (List Char)
  | [] => [[]]
  | character :: rest =>
      match splitAtSlashes rest with
      | [] => [[character]]
      | part :: parts =>
          if character = '/' then
            [] :: part :: parts
          else
            (character :: part) :: parts

/-- Whether the path starts at the root of the file system. -/
def isAbsolute (path : Path) : Bool :=
  path.text.toList.head? == some '/'

/-- Whether the path insists on a directory. -/
def endsInSlash (path : Path) : Bool :=
  path.text.toList.getLast? == some '/'

/-- The steps of the path, from its start. -/
def segments (path : Path) : List Segment :=
  (splitAtSlashes path.text.toList).filterMap Segment.ofPart?

/--
Continue a path with a further part.

An absolute part stands alone. Otherwise one slash comes between, unless the
path is empty or already ends in one.
-/
def join (path : Path) (part : String) : Path :=
  if isAbsolute ⟨part⟩ then
    ⟨part⟩
  else if path.text = "" || path.endsInSlash then
    ⟨path.text ++ part⟩
  else
    ⟨path.text ++ "/" ++ part⟩

/-- The root slash or the leading dot of a path, and what follows it. -/
def splitFront : List Char → List Char × List Char
  | '/' :: body => (['/'], body)
  | ['.'] => (['.'], [])
  | '.' :: '/' :: body => (['.'], '/' :: body)
  | body => ([], body)

/-- Drop trailing slashes and dots from a body that is given back to front. -/
def trimBack : List Char → List Char
  | '/' :: rest => trimBack rest
  | '.' :: '/' :: rest => trimBack rest
  | ['.'] => []
  | body => body

theorem length_trimBack_le (body : List Char) :
    (trimBack body).length ≤ body.length := by
  fun_induction trimBack body with
  | case1 rest inductionHypothesis =>
      exact Nat.le_succ_of_le inductionHypothesis
  | case2 rest inductionHypothesis =>
      simp only [List.length_cons]
      omega
  | case3 =>
      simp
  | case4 =>
      exact Nat.le_refl _

/--
The path without its last segment, if it has one.

Trailing slashes and dots do not count as segments, neither at the end of the
path nor at the end of what remains.
-/
def parent? (path : Path) : Option Path :=
  match splitFront path.text.toList with
  | (front, body) =>
      match trimBack body.reverse with
      | [] =>
          if front = ['.'] then
            some ⟨""⟩
          else
            none
      | _ :: rest =>
          some ⟨String.ofList (front ++
            (trimBack (rest.dropWhile (· != '/'))).reverse)⟩

theorem length_splitFront (text : List Char) :
    (splitFront text).1.length + (splitFront text).2.length = text.length := by
  fun_cases splitFront text <;> simp <;> omega

/-- A parent is shorter than the path, so that going up comes to an end. -/
theorem length_parent?_lt {path parent : Path} (found : path.parent? = some parent) :
    parent.text.toList.length < path.text.toList.length := by
  have whole := length_splitFront path.text.toList
  unfold parent? at found
  split at found
  next front body parts =>
    rw [parts] at whole
    simp only at whole
    split at found
    · split at found
      next isDot =>
        subst isDot
        simp only [Option.some.injEq] at found
        subst found
        simp only [List.length_cons, List.length_nil] at whole
        simp only [String.toList_empty, List.length_nil]
        omega
      · simp at found
    next last rest trimmed =>
      simp only [Option.some.injEq] at found
      subst found
      have bodyTrimmed := length_trimBack_le body.reverse
      rw [trimmed] at bodyTrimmed
      have restTrimmed := length_trimBack_le (rest.dropWhile (· != '/'))
      have dropped := (List.dropWhile_sublist (· != '/') (l := rest)).length_le
      simp only [List.length_cons, List.length_reverse] at bodyTrimmed
      simp only [String.toList_ofList, List.length_append, List.length_reverse]
      omega

/-- The path and the parents around it, the outermost first. -/
def ancestors (path : Path) : List Path :=
  match _found : path.parent? with
  | some parent => ancestors parent ++ [path]
  | none => [path]
  termination_by path.text.toList.length
  decreasing_by exact length_parent?_lt _found

end Path

end QueryPack
