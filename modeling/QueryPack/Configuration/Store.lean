import QueryPack.Configuration.Document
import QueryPack.FileSystem

namespace QueryPack

/-!
# Configuration files

Reading a configuration from a file, and writing one. A file that does not
exist is no configuration and no error. Writing refuses to replace what exists,
unless it is forced, and changes nothing when it fails. What is wrong with a text that
gives no configuration is told in the words of whoever reads it; these words are
handed in.
-/

/-- Why a file gives no configuration. -/
inductive ConfigurationError where
  | unreadable (path : Path) (reason : AccessError)
  /-- The text is malformed, or its values have the wrong types. -/
  | malformed (path : Path) (diagnosis : String)
  deriving Repr, DecidableEq

namespace ConfigurationError

def message : ConfigurationError → String
  | unreadable path reason => "Config error: " ++ path.text ++ ": " ++ reason.message
  | malformed path diagnosis => "Config error: " ++ path.text ++ ": " ++ diagnosis

end ConfigurationError

/-- Why a configuration is not written. -/
inductive StoreError where
  | alreadyExists (path : Path)
  | access (reason : AccessError)
  deriving Repr, DecidableEq

namespace StoreError

def message : StoreError → String
  | alreadyExists path =>
      "config already exists at " ++ path.text ++ " (use --force to overwrite)"
  | access reason => reason.message

end StoreError

namespace Configuration

/-- The configuration in a file; nothing if the path denotes nothing. -/
def load (diagnose : String → String) (fileSystem : FileSystem) (path : Path) :
    Except ConfigurationError (Option Configuration) :=
  if fileSystem.pathExists path then
    match fileSystem.readText path with
    | .error reason => .error (.unreadable path reason)
    | .ok text =>
        match ofText? text with
        | some config => .ok (some config)
        | none => .error (.malformed path (diagnose text))
  else
    .ok none

def store (fileSystem : FileSystem) (path : Path) (config : Configuration) (force : Bool) :
    Except StoreError FileSystem :=
  if fileSystem.pathExists path && !force then
    .error (.alreadyExists path)
  else
    match fileSystem.writeFile path config.text.toUTF8 with
    | .ok after => .ok after
    | .error reason => .error (.access reason)

end Configuration

end QueryPack
