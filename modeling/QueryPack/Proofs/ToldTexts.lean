import QueryPack.Json.Reader
import QueryPack.Program

namespace QueryPack

/-!
# What a run tells, word for word

A run tells why it failed, which command it was and where a query comes from:
people in a line of text, programs in one JSON document. The words are laid
down here as relations, apart from the functions that choose them, and each of
these functions is shown to choose the words of its relation.
-/

/-- The words for an access that is refused. -/
inductive AccessError.IsWorded : AccessError → String → Prop where
  | notFound :
      IsWorded .notFound "No such file or directory (os error 2)"
  | alreadyExists :
      IsWorded .alreadyExists "File exists (os error 17)"
  | notADirectory :
      IsWorded .notADirectory "Not a directory (os error 20)"
  | isADirectory :
      IsWorded .isADirectory "Is a directory (os error 21)"
  | nameTooLong :
      IsWorded .nameTooLong "File name too long (os error 36)"
  | nulInPath :
      IsWorded .nulInPath "file name contained an unexpected NUL byte"
  | notUtf8 :
      IsWorded .notUtf8 "stream did not contain valid UTF-8"
  | busy :
      IsWorded .busy "Device or resource busy (os error 16)"

/-- The text of a failure: what failed, at which path, and why. -/
inductive CommandError.IsWorded : CommandError → String → Prop where
  | unreadable
      {path : Path}
      {reason : AccessError}
      {words : String}
      (because : reason.IsWorded words) :
      IsWorded (.config (.unreadable path reason))
        ("Config error: " ++ path.text ++ ": " ++ words)
  | malformed
      {path : Path}
      {diagnosis : String} :
      IsWorded (.config (.malformed path diagnosis))
        ("Config error: " ++ path.text ++ ": " ++ diagnosis)
  -- A run that fails gives its reason twice: with the step, and beneath it.
  | createRoot
      {path : Path}
      {reason : AccessError}
      {words : String}
      (because : reason.IsWorded words) :
      IsWorded (.run (.createRoot path reason))
        ("Failed to create output root " ++ path.text ++ ": " ++ words ++
          ": " ++ words)
  | createDirectory
      {language : Language}
      {path : Path}
      {reason : AccessError}
      {words : String}
      (because : reason.IsWorded words) :
      IsWorded (.run (.createDirectory language path reason))
        ("Failed to create directory for " ++ language.name ++ " at " ++
          path.text ++ ": " ++ words ++ ": " ++ words)
  | write
      {language : Language}
      {category : Category}
      {path : Path}
      {reason : AccessError}
      {words : String}
      (because : reason.IsWorded words) :
      IsWorded (.run (.write language category path reason))
        ("Failed to write " ++ language.name ++ "/" ++ category.name ++
          " to " ++ path.text ++ ": " ++ words ++ ": " ++ words)
  | alreadyExists
      {path : Path} :
      IsWorded (.store (.alreadyExists path))
        ("config already exists at " ++ path.text ++
          " (use --force to overwrite)")
  | access
      {reason : AccessError}
      {words : String}
      (because : reason.IsWorded words) :
      IsWorded (.store (.access reason)) words

/-- The word for a command, whether or not the command line has it. -/
inductive Command.IsCalled : Command → String → Prop where
  | generate :
      IsCalled .generate "generate"
  | list :
      IsCalled .list "list"
  | showQuery
      {language category : String} :
      IsCalled (.showQuery language category) "show"
  | init
      {force : Bool} :
      IsCalled (.init force) "init"

/-- The word for where a query comes from. -/
inductive Provenance.IsCalled : Provenance → String → Prop where
  | override :
      IsCalled .override "override"
  | categoryDefault :
      IsCalled .categoryDefault "default"
  | placeholder :
      IsCalled .placeholder "placeholder"

/-- The line that tells people of a failure: in bold red, if there are colours. -/
inductive Palette.ShowsFailure (text : String) : Palette → String → Prop where
  | plain :
      ShowsFailure text .plain ("❌ " ++ text ++ "\n")
  | colored :
      ShowsFailure text .colored
        ("❌ " ++ ("\x1b[31;1m" ++ text ++ "\x1b[0m") ++ "\n")

theorem AccessError.isWorded_message
    (error : AccessError) :
    error.IsWorded error.message := by
  cases error <;> constructor

theorem RunError.isWorded_message
    (error : RunError) :
    (CommandError.run error).IsWorded (CommandError.run error).message := by
  have because := error.reason.isWorded_message
  cases error with
  | createRoot => exact .createRoot because
  | createDirectory => exact .createDirectory because
  | write => exact .write because

/-- The message of a failure is the text for it. -/
theorem CommandError.isWorded_message
    (error : CommandError) :
    error.IsWorded error.message := by
  cases error with
  | config error =>
      cases error with
      | unreadable path reason => exact .unreadable reason.isWorded_message
      | malformed => exact .malformed
  | run error => exact error.isWorded_message
  | store error =>
      cases error with
      | alreadyExists => exact .alreadyExists
      | access reason => exact .access reason.isWorded_message

theorem Command.isCalled_name
    (command : Command) :
    command.IsCalled command.name := by
  cases command <;> constructor

theorem Palette.showsFailure_failed
    (palette : Palette)
    (text : String) :
    palette.ShowsFailure text (Console.failed palette text) := by
  cases palette with
  | plain => exact .plain
  | colored => exact .colored

/-- The object that a reply is. -/
def Json.reply (ok : Bool) (command : String) (data : Json) : Json :=
  .object [
    ("command", .string command),
    ("data", data),
    ("ok", .bool ok)]

/-- An output that a reader takes for one reply, followed by a line break. -/
def IsReply
    (output : String)
    (ok : Bool)
    (command : String)
    (data : Json) : Prop :=
  ∃ text,
    output = text ++ "\n" ∧
      Json.ofText? text = some (.reply ok command data)

/-- An output is one reply at most. -/
theorem IsReply.unique
    {output firstCommand secondCommand : String}
    {firstOk secondOk : Bool}
    {firstData secondData : Json}
    (first : IsReply output firstOk firstCommand firstData)
    (second : IsReply output secondOk secondCommand secondData) :
    secondOk = firstOk ∧
      secondCommand = firstCommand ∧
      secondData = firstData := by
  obtain ⟨text, shape, isRead⟩ := first
  obtain ⟨secondText, secondShape, secondRead⟩ := second
  have sameText : secondText = text :=
    (String.append_left_inj "\n").mp (secondShape.symm.trans shape)
  rw [sameText, isRead] at secondRead
  simp only [Json.reply, Option.some.injEq, Json.object.injEq,
    List.cons.injEq, Prod.mk.injEq, true_and, Json.string.injEq,
    Json.bool.injEq, and_true] at secondRead
  obtain ⟨sameCommand, sameData, sameOk⟩ := secondRead
  exact ⟨sameOk.symm, sameCommand.symm, sameData.symm⟩

end QueryPack
