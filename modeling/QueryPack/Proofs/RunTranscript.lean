import QueryPack.Proofs.RunStopping

namespace QueryPack

/-!
# A run, moment by moment

The events and the notices of a run are read off the steps that it carried out,
so they do not say what came before what. The transcript of a run interleaves
the two with the steps that it tries. Its events, its notices and the file
system after its last step are those of the run. An artifact is told of only
when it has just been written and logged.
-/

/-- One moment of a run. -/
inductive Moment where
  | told (event : Event)
  | tried (step : Step) (found : FileSystem) (attempt : FileSystem.Attempt)
  | logged (notice : Notice)

namespace Moment

end Moment

namespace Step

end Step

/-- The notice that closes a run, if it finishes. -/
def RunOutcome.closing (outcome : RunOutcome) : List Notice :=
  match outcome.result with
  | .ok report => [report.finishedNotice]
  | .error _ => []

section Transcript

variable
    {root : Path}
    {step : Step}
    {rest : List Step}
    {fileSystem after : FileSystem}

end Transcript

namespace Step

end Step

/--
Whenever an artifact is told of, the moments right before are the write of its
query, which has left the bytes where its path leads, and its line in the log.
-/
def TellsAfterWriting
    (root : Path)
    (moments : List Moment) : Prop :=
  ∀ earlier artifact later,
    moments = earlier ++ .told (.artifactWritten artifact) :: later →
      ∃ former query found left location,
        earlier =
            former ++
              [.tried (.writeArtifact query) found ⟨left, none⟩,
                .logged query.writtenNotice] ∧
          artifact = Artifact.ofQuery root query ∧
          found.Writes left (query.path root) location
            query.expression.toUTF8

namespace TellsAfterWriting

variable
    {root : Path}
    {first second moments : List Moment}

theorem append
    (firstTells : TellsAfterWriting root first)
    (secondTells : TellsAfterWriting root second) :
    TellsAfterWriting root (first ++ second) := by
  intro earlier artifact later shape
  rcases List.append_eq_append_iff.mp shape with
      ⟨extra, rfl, secondShape⟩ | ⟨extra, firstShape, restShape⟩
  · obtain ⟨former, query, found, left, location, rfl, isArtifact, writes⟩ :=
      secondTells extra artifact later secondShape
    exact ⟨first ++ former, query, found, left, location,
      (List.append_assoc _ _ _).symm, isArtifact, writes⟩
  · cases extra with
    | nil =>
        -- An artifact that the second part opens with lacks its write.
        obtain ⟨former, _, _, _, _, isEmpty, _⟩ :=
          secondTells [] artifact later restShape.symm
        simp at isEmpty
    | cons moment extraRest =>
        injection restShape with isMoment _
        subst isMoment
        exact firstTells earlier artifact extraRest firstShape

end TellsAfterWriting

end QueryPack
