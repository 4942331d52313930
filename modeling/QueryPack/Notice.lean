import QueryPack.EffectiveQuery
import QueryPack.Text.Hex

namespace QueryPack

/-!
# Log lines

What a run has to say while it works is a list of notices. A notice is a fact;
its level, the part of the program that speaks and its wording follow from it.
-/

/-- How much a notice matters. -/
inductive Level where
  | debug
  | info
  | warn
  deriving Repr, DecidableEq

namespace Level

/-- The level as it is written in a log line. -/
def label : Level → String
  | .debug => "DEBUG"
  | .info => "INFO"
  | .warn => "WARN"

end Level

/-- One thing worth logging. -/
inductive Notice where
  /-- A language was named twice. -/
  | duplicateLanguage (language : Language)
  /-- A category was named twice. -/
  | duplicateCategory (category : Category)
  /-- An override lies outside the pack. -/
  | ignoredOverride (stray : StrayOverride)
  | runStarted (languages categories : Nat) (root : String)
  | artifactWritten (language : Language) (category : Category) (source : Provenance)
  | runFinished (artifacts overrides placeholders : Nat)
  /-- A query was asked for that no run writes. -/
  | outsidePack (language : Language) (category : Category)
  /-- The named config file does not exist. -/
  | configMissing (path : String)
  deriving Repr, DecidableEq

namespace Notice

/-- How much the notice matters. -/
def level : Notice → Level
  | duplicateLanguage _ => .warn
  | duplicateCategory _ => .warn
  | ignoredOverride _ => .warn
  | runStarted _ _ _ => .info
  | artifactWritten _ _ _ => .debug
  | runFinished _ _ _ => .info
  | outsidePack _ _ => .warn
  | configMissing _ => .warn

/-- The part of the program that speaks, as the log names it. -/
def origin : Notice → String
  | duplicateLanguage _ => "querygen::catalog"
  | duplicateCategory _ => "querygen::catalog"
  | ignoredOverride _ => "querygen::registry"
  | runStarted _ _ _ => "querygen::materializer"
  | artifactWritten _ _ _ => "querygen::materializer"
  | runFinished _ _ _ => "querygen::materializer"
  | outsidePack _ _ => "querygen::commands"
  | configMissing _ => "querygen"

/-- The wording. -/
def message : Notice → String
  | duplicateLanguage language =>
      "Duplicate language " ++ language.name ++ " in catalog, keeping first"
  | duplicateCategory category =>
      "Duplicate category " ++ category.name ++ " in catalog, keeping first"
  | ignoredOverride stray =>
      "Ignoring override " ++ stray.key.language.name ++ "/" ++
        stray.key.category.name ++ ": " ++ stray.reason
  | runStarted languages categories root =>
      "Materializing " ++ toString languages ++ " languages x " ++
        toString categories ++ " categories into " ++ root
  | artifactWritten language category source =>
      "Wrote " ++ language.name ++ "/" ++ category.name ++ " (" ++ source.label ++ ")"
  | runFinished artifacts overrides placeholders =>
      "Wrote " ++ toString artifacts ++ " artifacts (" ++ toString overrides ++
        " overrides, " ++ toString placeholders ++ " placeholders)"
  | outsidePack language category =>
      language.name ++ "/" ++ category.name ++
        " is outside the catalog; no artifact is written for it"
  | configMissing path =>
      "Config " ++ path ++ " not found, using built-in catalog"

/-- Level and wording. -/
def line (notice : Notice) : String :=
  notice.level.label ++ " " ++ notice.message

/--
A character of a console log line.

Characters that a terminal might take for a command are spelled out: bell,
backspace, form feed, escape and delete by two digits, the C1 controls by their
code point.
-/
def escapeControl (character : Char) : List Char :=
  if character ∈ ['\x07', '\x08', '\x0c', '\x1b', '\x7f'] then
    ['\\', 'x', Text.hexDigit (character.toNat / 16), Text.hexDigit (character.toNat % 16)]
  else if '\x80' ≤ character && character ≤ '\x9f' then
    ['\\', 'u', '{', Text.hexDigit (character.toNat / 16),
      Text.hexDigit (character.toNat % 16), '}']
  else
    [character]

/-- Level, origin and wording, as a console shows them. -/
def consoleLine (notice : Notice) : String :=
  notice.level.label ++ " " ++ notice.origin ++ ": " ++
    String.ofList (notice.message.toList.flatMap escapeControl)

end Notice

/-- The notices of building the languages: one for each repetition. -/
def Languages.notices (names : List String) : List Notice :=
  (Languages.dropped names).map .duplicateLanguage

/-- The notices of building the categories: one for each repetition. -/
def Categories.notices (entries : List ListedCategory) : List Notice :=
  (Categories.dropped entries).map fun entry => .duplicateCategory entry.category

/-- One warning for each override outside the pack, in key order. -/
def Overrides.strayNotices (overrides : Overrides)
    (languages : Languages) (categories : Categories) : List Notice :=
  (overrides.strays languages categories).map .ignoredOverride

/-- Warn of the overrides outside the pack: their number, and what the log says. -/
def Overrides.warnOfStrays (overrides : Overrides)
    (languages : Languages) (categories : Categories) : Nat × List Notice :=
  ((overrides.strays languages categories).length,
    overrides.strayNotices languages categories)

end QueryPack
