import QueryPack.Run
import QueryPack.Proofs.Making

namespace QueryPack

/-!
# What the steps of a run leave behind

A step either only makes directories or writes one artifact; a step that fails
never writes. Carried out in order, the steps keep everything what it was, each
written artifact is found where its path leads, and every place shows the last
query that was written there. Names may alias one another in any way: places
are compared by what paths denote in the file system that is left.
-/

/-- The path of the artifact that holds a query. -/
def EffectiveQuery.path (query : EffectiveQuery) (root : Path) : Path :=
  Layout.file root query.language query.category

/-- What carrying out a step has done to a file system. -/
inductive Step.Effect
    (root : Path)
    (step : Step)
    (before : FileSystem)
    (attempt : FileSystem.Attempt) : Prop where
  | made
      (adds : before.AddsDirectories attempt.fileSystem)
      (writesNothing : attempt.failure? = none → step.query? = none) :
      Effect root step before attempt
  | wrote
      (query : EffectiveQuery)
      (location : Location)
      (isWrite : step = .writeArtifact query)
      (succeeded : attempt.failure? = none)
      (writes :
        before.Writes attempt.fileSystem (query.path root) location
          query.expression.toUTF8) :
      Effect root step before attempt

namespace Step

theorem effect_perform
    (root : Path)
    (step : Step)
    (fileSystem : FileSystem) :
    step.Effect root fileSystem (step.perform root fileSystem) := by
  cases step with
  | makeRoot =>
      exact .made (fileSystem.createDirectories_addsDirectories root)
        (fun _ => rfl)
  | openLanguage language =>
      exact .made (fileSystem.createDirectories_addsDirectories _)
        (fun _ => rfl)
  | writeArtifact query =>
      rw [perform]
      cases wrote :
          fileSystem.writeFile
            (Layout.file root query.language query.category)
            query.expression.toUTF8 with
      | error reason =>
          exact .made (.refl fileSystem) (fun succeeded => by cases succeeded)
      | ok after =>
          obtain ⟨location, writes⟩ :=
            FileSystem.exists_writes_of_writeFile_eq_ok wrote
          exact .wrote query location rfl rfl writes

theorem Effect.keepsEntries
    {root : Path}
    {step : Step}
    {before : FileSystem}
    {attempt : FileSystem.Attempt}
    (effect : step.Effect root before attempt) :
    before.KeepsEntries attempt.fileSystem := by
  cases effect with
  | made adds _ =>
      exact adds.keepsEntries
  | wrote _ _ _ _ writes =>
      exact writes.keepsEntries

/-- A step that fails has at most made directories. -/
theorem Effect.adds_of_failure
    {root : Path}
    {step : Step}
    {before after : FileSystem}
    {reason : AccessError}
    (effect : step.Effect root before ⟨after, some reason⟩) :
    before.AddsDirectories after := by
  cases effect with
  | made adds _ =>
      exact adds
  | wrote _ _ _ succeeded _ =>
      cases succeeded

/-- What a step is for is there already. -/
def IsSettled
    (root : Path)
    (fileSystem : FileSystem) : Step → Prop
  | makeRoot =>
      fileSystem.HasDirectory root
  | openLanguage language =>
      fileSystem.HasDirectory (Layout.directory root language)
  | writeArtifact query =>
      ∃ location, fileSystem.Stores (query.path root) location

theorem IsSettled.of_keepsEntries
    {root : Path}
    {before after : FileSystem}
    (keeps : before.KeepsEntries after)
    {step : Step}
    (settled : step.IsSettled root before) :
    step.IsSettled root after := by
  cases step with
  | makeRoot =>
      exact FileSystem.HasDirectory.of_keepsDirectories
        keeps.toKeepsDirectories settled
  | openLanguage language =>
      exact FileSystem.HasDirectory.of_keepsDirectories
        keeps.toKeepsDirectories settled
  | writeArtifact query =>
      obtain ⟨location, stores⟩ := settled
      exact ⟨location, stores.of_keepsEntries keeps⟩

/-- A step that succeeds is settled. -/
theorem isSettled_of_perform
    {root : Path}
    {step : Step}
    {fileSystem after : FileSystem}
    (performed : step.perform root fileSystem = ⟨after, none⟩) :
    step.IsSettled root after := by
  have effect := step.effect_perform root fileSystem
  cases step with
  | makeRoot =>
      rw [perform] at performed
      have made :=
        FileSystem.hasDirectory_of_createDirectories
          (by rw [performed])
      rwa [performed] at made
  | openLanguage language =>
      rw [perform] at performed
      have made :=
        FileSystem.hasDirectory_of_createDirectories
          (by rw [performed])
      rwa [performed] at made
  | writeArtifact query =>
      rw [performed] at effect
      cases effect with
      | made _ writesNothing =>
          cases writesNothing rfl
      | wrote same location isWrite _ writes =>
          injection isWrite with isSame
          subst isSame
          exact ⟨location, writes.stores⟩

end Step

section CarryOut

variable
    {root : Path}
    {step : Step}
    {rest : List Step}
    {fileSystem after : FileSystem}

theorem carryOut_of_failure
    {reason : AccessError}
    (performed :
      step.perform root fileSystem = ⟨after, some reason⟩) :
    carryOut root (step :: rest) fileSystem =
      ⟨[], some (step, reason), after⟩ := by
  rw [carryOut, performed]

theorem carryOut_of_success
    (performed : step.perform root fileSystem = ⟨after, none⟩) :
    carryOut root (step :: rest) fileSystem =
      ⟨step :: (carryOut root rest after).completed,
        (carryOut root rest after).stopped?,
        (carryOut root rest after).fileSystem⟩ := by
  rw [carryOut, performed]

theorem written_of_failure
    {reason : AccessError}
    (performed :
      step.perform root fileSystem = ⟨after, some reason⟩) :
    (carryOut root (step :: rest) fileSystem).written = [] := by
  rw [carryOut_of_failure performed]
  rfl

theorem written_of_no_query
    (performed : step.perform root fileSystem = ⟨after, none⟩)
    (writesNothing : step.query? = none) :
    (carryOut root (step :: rest) fileSystem).written =
      (carryOut root rest after).written := by
  rw [carryOut_of_success performed]
  simp [Progress.written, writesNothing]

theorem written_of_write
    {query : EffectiveQuery}
    (performed :
      (Step.writeArtifact query).perform root fileSystem =
        ⟨after, none⟩) :
    (carryOut root (.writeArtifact query :: rest) fileSystem).written =
      query :: (carryOut root rest after).written := by
  rw [carryOut_of_success performed]
  rfl

end CarryOut

/-- A run keeps everything what it was, wherever it stops. -/
theorem carryOut_keepsEntries
    (root : Path)
    (steps : List Step)
    (fileSystem : FileSystem) :
    fileSystem.KeepsEntries (carryOut root steps fileSystem).fileSystem := by
  induction steps generalizing fileSystem with
  | nil =>
      exact .refl fileSystem
  | cons step rest inductionHypothesis =>
      have effect := step.effect_perform root fileSystem
      rcases performed : step.perform root fileSystem with
        ⟨after, _ | reason⟩
      · rw [performed] at effect
        rw [carryOut_of_success performed]
        exact effect.keepsEntries.trans (inductionHypothesis after)
      · rw [performed] at effect
        rw [carryOut_of_failure performed]
        exact effect.keepsEntries

/-- Every step that was carried out is still settled at the end. -/
theorem isSettled_of_mem_completed
    {root : Path}
    {steps : List Step}
    {fileSystem : FileSystem}
    {step : Step}
    (isCompleted : step ∈ (carryOut root steps fileSystem).completed) :
    step.IsSettled root (carryOut root steps fileSystem).fileSystem := by
  induction steps generalizing fileSystem with
  | nil =>
      cases isCompleted
  | cons head rest inductionHypothesis =>
      rcases performed : head.perform root fileSystem with
        ⟨after, _ | reason⟩
      · rw [carryOut_of_success performed] at isCompleted ⊢
        rcases List.mem_cons.mp isCompleted with isHead | inRest
        · subst isHead
          exact (Step.isSettled_of_perform performed).of_keepsEntries
            (carryOut_keepsEntries root rest after)
        · exact inductionHypothesis inRest
      · rw [carryOut_of_failure performed] at isCompleted
        cases isCompleted

theorem mem_completed_of_mem_written
    {progress : Progress}
    {query : EffectiveQuery}
    (isWritten : query ∈ progress.written) :
    Step.writeArtifact query ∈ progress.completed := by
  obtain ⟨step, isCompleted, writes⟩ := List.mem_filterMap.mp isWritten
  cases step with
  | makeRoot =>
      cases writes
  | openLanguage language =>
      cases writes
  | writeArtifact same =>
      injection writes with isSame
      exact isSame ▸ isCompleted

/-- Every artifact that was written is still found where its path leads. -/
theorem exists_stores_of_mem_written
    {root : Path}
    {steps : List Step}
    {fileSystem : FileSystem}
    {query : EffectiveQuery}
    (isWritten : query ∈ (carryOut root steps fileSystem).written) :
    ∃ location,
      (carryOut root steps fileSystem).fileSystem.Stores
        (query.path root) location :=
  isSettled_of_mem_completed (mem_completed_of_mem_written isWritten)

/--
A place that no written artifact denotes is as it was before the run, or a
directory was made there.
-/
theorem sameOrMade_of_not_written
    {root : Path}
    {steps : List Step}
    {fileSystem : FileSystem}
    {location : Location}
    (untouched :
      ∀ query ∈ (carryOut root steps fileSystem).written,
        (carryOut root steps fileSystem).fileSystem.locate
          (query.path root) ≠ .ok location) :
    fileSystem.SameOrMade
      (carryOut root steps fileSystem).fileSystem location := by
  induction steps generalizing fileSystem with
  | nil =>
      exact Or.inl rfl
  | cons step rest inductionHypothesis =>
      have effect := step.effect_perform root fileSystem
      rcases performed : step.perform root fileSystem with
        ⟨after, _ | reason⟩
      · rw [performed] at effect
        have keeps := carryOut_keepsEntries root rest after
        rw [carryOut_of_success performed]
        cases effect with
        | made adds writesNothing =>
            rw [written_of_no_query performed (writesNothing rfl),
              carryOut_of_success performed] at untouched
            exact (adds.sameOrMade location).trans
              (inductionHypothesis untouched)
        | wrote head headLocation isWrite _ writes =>
            subst isWrite
            rw [written_of_write performed,
              carryOut_of_success performed] at untouched
            -- The head still denotes its place at the end, where nothing
            -- that was written may denote the place in question.
            have elsewhere : headLocation ≠ location := by
              rintro rfl
              exact untouched head List.mem_cons_self
                (writes.stores.of_keepsEntries keeps).locate_eq
            have afterToFinal :=
              inductionHypothesis
                (fun query member =>
                  untouched query (List.mem_cons_of_mem _ member))
            exact FileSystem.SameOrMade.trans
              (Or.inl (writes.puts.entryAt?_other elsewhere)) afterToFinal
      · rw [performed] at effect
        rw [carryOut_of_failure performed]
        exact effect.adds_of_failure.sameOrMade location

/-- The last query written to a place is what a file there holds. -/
theorem entryAt?_of_last_written
    {root : Path}
    {steps : List Step}
    {fileSystem : FileSystem}
    {location : Location}
    {earlier later : List EffectiveQuery}
    {query : EffectiveQuery}
    (writtenShape :
      (carryOut root steps fileSystem).written =
        earlier ++ query :: later)
    (denotes :
      (carryOut root steps fileSystem).fileSystem.locate
        (query.path root) = .ok location)
    (last :
      ∀ other ∈ later,
        (carryOut root steps fileSystem).fileSystem.locate
          (other.path root) ≠ .ok location) :
    (carryOut root steps fileSystem).fileSystem.entryAt? location =
      some (.written query.expression.toUTF8
        (fileSystem.entryAt? location)) := by
  induction steps generalizing fileSystem earlier with
  | nil =>
      simp [carryOut, Progress.written] at writtenShape
  | cons step rest inductionHypothesis =>
      have effect := step.effect_perform root fileSystem
      rcases performed : step.perform root fileSystem with
        ⟨after, _ | reason⟩
      · rw [performed] at effect
        have keeps := carryOut_keepsEntries root rest after
        -- What a write leaves depends on the entry before it only by whether
        -- this is a device, and devices neither come nor go.
        have sameDevice :
            Entry.written query.expression.toUTF8
                (after.entryAt? location) =
              .written query.expression.toUTF8
                (fileSystem.entryAt? location) :=
          FileSystem.written_congr effect.keepsEntries.device_iff
        rw [carryOut_of_success performed] at denotes last ⊢
        cases effect with
        | made _ writesNothing =>
            rw [written_of_no_query performed (writesNothing rfl)]
              at writtenShape
            rw [← sameDevice]
            exact inductionHypothesis writtenShape denotes last
        | wrote head headLocation isWrite _ writes =>
            subst isWrite
            rw [written_of_write performed] at writtenShape
            cases earlier with
            | nil =>
                injection writtenShape with isHead restShape
                subst isHead restShape
                have headDenotes :=
                  (writes.stores.of_keepsEntries keeps).locate_eq
                have sameLocation : headLocation = location :=
                  Except.ok.inj (headDenotes.symm.trans denotes)
                subst sameLocation
                exact (sameOrMade_of_not_written last).entryAt?_of_some
                  writes.puts.entryAt?_same
            | cons first earlierRest =>
                injection writtenShape with _ restShape
                rw [← sameDevice]
                exact inductionHypothesis restShape denotes last
      · rw [written_of_failure performed] at writtenShape
        simp at writtenShape

end QueryPack
