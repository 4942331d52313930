import QueryPack.FileSystem.Tree
import QueryPack.Proofs.ProgramRuns

namespace QueryPack

/-!
# What is told, and what is done

How a command line wants its results presented, verbosely, quietly or for
programs, decides what is printed and which notices are logged. It decides
nothing about the work: the files, the exit code and every notice above the
details are the same. The details are one notice for each artifact written.
-/

section Deeds

variable
    {diagnose : String → String}
    {first second : Invocation}
    {fileSystem : FileSystem}

end Deeds

section Details

section WithJob

variable
    {diagnose : String → String}
    {invocation : Invocation}
    {fileSystem : FileSystem}
    {command : Job → FileSystem → CommandOutcome}

end WithJob

end Details

section Flags

variable
    {diagnose : String → String}
    {invocation : Invocation}
    {fileSystem : FileSystem}

end Flags

end QueryPack
