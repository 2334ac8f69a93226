import Historian.RegistryReplay
import Historian.Readmission

namespace Historian

open Checks

/-- A method as a caller runs it, on the one registry that it holds: what it has changed stays
changed when it returns an error. -/
abbrev RegistryMethod := ExceptT ModelError (StateM SeriesRegistry)

inductive RegistryCall where
  | register (seriesId : SeriesId) (binding : SeriesBinding) (payload : SeriesDeclarationPayload)
      (evidence : DeclarationEvidence)
  | revise (seriesId : SeriesId) (expectedRevision : DeclarationRevision)
      (payload : SeriesDeclarationPayload) (evidence : DeclarationEvidence)
  | retire (seriesId : SeriesId) (expectedRevision : DeclarationRevision)
      (evidence : DeclarationEvidence)
  deriving DecidableEq

def RegistryCall.seriesId : RegistryCall → SeriesId
  | .register seriesId _ _ _ => seriesId
  | .revise seriesId _ _ _ => seriesId
  | .retire seriesId _ _ => seriesId

inductive RegistryAnswer where
  | declared (declaration : SeriesDeclaration)
  | retired (retirement : SeriesRetirement)
  deriving DecidableEq

namespace SeriesRegistry

def registerInPlace (seriesId : SeriesId) (binding : SeriesBinding)
    (payload : SeriesDeclarationPayload) (evidence : DeclarationEvidence) :
    RegistryMethod RegistryAnswer := do
  let registry ← get
  match registry.history seriesId with
  | some history =>
    if history.retirement ≠ none then throw .seriesRetired
    else
      match history.declarations with
      | [] => throw .seriesNotFound
      | initial :: later =>
        if later = [] ∧ history.binding = binding ∧ initial.payload = payload ∧
            initial.evidence = evidence then pure (.declared initial)
        else throw .seriesAlreadyRegistered
  | none =>
    if registry.limits.maxSeries.val ≤ registry.series.length then
      throw .registrySeriesCapacityExceeded
    else if registry.limits.maxDeclarationRevisions.val ≤ registry.declarationRevisionCount then
      throw .registryRevisionCapacityExceeded
    else do
      let declaration : SeriesDeclaration :=
        ⟨registry.storeId, seriesId, .first, none, binding, payload, evidence⟩
      modify fun self => { self with
        series := SortedMap.insert Identity.lt seriesId ⟨seriesId, binding, [declaration], none⟩
          self.series }
      modify fun self => { self with
        declarationRevisionCount := self.declarationRevisionCount + 1 }
      pure (.declared declaration)

def reviseInPlace (seriesId : SeriesId) (expectedRevision : DeclarationRevision)
    (payload : SeriesDeclarationPayload) (evidence : DeclarationEvidence) :
    RegistryMethod RegistryAnswer := do
  let registry ← get
  match registry.history seriesId with
  | none => throw .seriesNotFound
  | some history =>
    if history.retirement ≠ none then throw .seriesRetired
    else
      match history.latestDeclaration with
      | none => throw .seriesNotFound
      | some current =>
        if current.previousRevision = some expectedRevision ∧ current.payload = payload ∧
            current.evidence = evidence then pure (.declared current)
        else if current.revision ≠ expectedRevision then throw .staleDeclarationRevision
        else if current.payload = payload then throw .declarationUnchanged
        else if registry.limits.maxDeclarationRevisions.val ≤
            registry.declarationRevisionCount then throw .registryRevisionCapacityExceeded
        else do
          let declaration : SeriesDeclaration := ⟨registry.storeId, seriesId,
            current.revision.next, some expectedRevision, history.binding, payload, evidence⟩
          let self ← get
          -- the history is looked up a second time, now to be changed
          match self.history seriesId with
          | none => throw .seriesNotFound
          | some _ => do
            modify fun self => { self with
              series := SortedMap.modify seriesId
                (fun h => { h with declarations := h.declarations ++ [declaration] })
                self.series }
            modify fun self => { self with
              declarationRevisionCount := self.declarationRevisionCount + 1 }
            pure (.declared declaration)

def retireInPlace (seriesId : SeriesId) (expectedRevision : DeclarationRevision)
    (evidence : DeclarationEvidence) : RegistryMethod RegistryAnswer := do
  let registry ← get
  match registry.history seriesId with
  | none => throw .seriesNotFound
  | some history =>
    match history.retirement with
    | some retirement =>
      if retirement.declarationRevision = expectedRevision ∧ retirement.evidence = evidence then
        pure (.retired retirement)
      else throw .seriesRetired
    | none =>
      match history.latestDeclaration with
      | none => throw .seriesNotFound
      | some latest =>
        if latest.revision ≠ expectedRevision then throw .staleDeclarationRevision
        else do
          let self ← get
          match self.history seriesId with
          | none => throw .seriesNotFound
          | some _ => do
            modify fun self => { self with
              series := SortedMap.modify seriesId
                (fun h => { h with retirement := some ⟨expectedRevision, evidence⟩ })
                self.series }
            pure (.retired ⟨expectedRevision, evidence⟩)

def call (registry : SeriesRegistry) :
    RegistryCall → Except ModelError RegistryAnswer × SeriesRegistry
  | .register seriesId binding payload evidence =>
    (registerInPlace seriesId binding payload evidence).run.run registry
  | .revise seriesId expectedRevision payload evidence =>
    (reviseInPlace seriesId expectedRevision payload evidence).run.run registry
  | .retire seriesId expectedRevision evidence =>
    (retireInPlace seriesId expectedRevision evidence).run.run registry

/-- The registry behind a list of calls, whatever each of them answered. -/
def after (registry : SeriesRegistry) (calls : List RegistryCall) : SeriesRegistry :=
  calls.foldl (fun registry call => (registry.call call).2) registry

/-- The answer and the registry that a method run in place shows for the result that carries
both. -/
def settle {α : Type} (registry : SeriesRegistry) (answer : α → RegistryAnswer) :
    Except ModelError (α × SeriesRegistry) → Except ModelError RegistryAnswer × SeriesRegistry
  | .ok (output, next) => (.ok (answer output), next)
  | .error error => (.error error, registry)

section Run

variable {α β : Type} (registry : SeriesRegistry)

theorem run_get (next : SeriesRegistry → RegistryMethod α) :
    (get >>= next).run.run registry = (next registry).run.run registry := rfl

theorem run_modify (change : SeriesRegistry → SeriesRegistry) (next : Unit → RegistryMethod α) :
    (modify change >>= next).run.run registry = (next ()).run.run (change registry) := rfl

theorem run_throw (error : ModelError) :
    (throw error : RegistryMethod α).run.run registry = (.error error, registry) := rfl

theorem run_pure (output : α) :
    (pure output : RegistryMethod α).run.run registry = (.ok output, registry) := rfl

theorem settle_refuse (answer : α → RegistryAnswer) {c : Prop} [Decidable c]
    (error : ModelError) (next : Unit → Except ModelError (α × SeriesRegistry)) :
    registry.settle answer (refuse c error >>= next) =
      if c then (.error error, registry) else registry.settle answer (next ()) := by
  by_cases hc : c
  · simp only [refuse, hc, ↓reduceIte]
    rfl
  · simp only [refuse, hc, ↓reduceIte]
    rfl

end Run

theorem call_register (registry : SeriesRegistry) (seriesId : SeriesId) (binding : SeriesBinding)
    (payload : SeriesDeclarationPayload) (evidence : DeclarationEvidence) :
    registry.call (.register seriesId binding payload evidence) =
      registry.settle .declared (registry.register seriesId binding payload evidence) := by
  unfold call registerInPlace register
  simp only [run_get]
  cases hh : registry.history seriesId with
  | some history =>
    simp only [settle_refuse]
    by_cases hretired : history.retirement ≠ none
    · rw [if_pos hretired, if_pos hretired]
      rfl
    · rw [if_neg hretired, if_neg hretired]
      cases hdeclared : history.declarations with
      | nil => rfl
      | cons initial later =>
        dsimp only
        split
        next => rfl
        next => rfl
  | none =>
    simp only [settle_refuse]
    by_cases hseries : registry.limits.maxSeries.val ≤ registry.series.length
    · rw [if_pos hseries, if_pos hseries]
      rfl
    · rw [if_neg hseries, if_neg hseries]
      by_cases hcount :
        registry.limits.maxDeclarationRevisions.val ≤ registry.declarationRevisionCount
      · rw [if_pos hcount, if_pos hcount]
        rfl
      · rw [if_neg hcount, if_neg hcount]
        rfl

theorem call_revise (registry : SeriesRegistry) (seriesId : SeriesId)
    (expectedRevision : DeclarationRevision) (payload : SeriesDeclarationPayload)
    (evidence : DeclarationEvidence) :
    registry.call (.revise seriesId expectedRevision payload evidence) =
      registry.settle .declared (registry.revise seriesId expectedRevision payload evidence) := by
  unfold call reviseInPlace revise
  simp only [run_get]
  cases hh : registry.history seriesId with
  | none => rfl
  | some history =>
    simp only [settle_refuse]
    by_cases hretired : history.retirement ≠ none
    · rw [if_pos hretired, if_pos hretired]
      rfl
    · rw [if_neg hretired, if_neg hretired]
      cases hlatest : history.latestDeclaration with
      | none => rfl
      | some current =>
        dsimp only
        by_cases hreplay : current.previousRevision = some expectedRevision ∧
          current.payload = payload ∧ current.evidence = evidence
        · rw [if_pos hreplay, if_pos hreplay]
          rfl
        · rw [if_neg hreplay, if_neg hreplay]
          simp only [settle_refuse]
          by_cases hstale : current.revision ≠ expectedRevision
          · rw [if_pos hstale, if_pos hstale]
            rfl
          · rw [if_neg hstale, if_neg hstale]
            by_cases hsame : current.payload = payload
            · rw [if_pos hsame, if_pos hsame]
              rfl
            · rw [if_neg hsame, if_neg hsame]
              by_cases hcount :
                registry.limits.maxDeclarationRevisions.val ≤ registry.declarationRevisionCount
              · rw [if_pos hcount, if_pos hcount]
                rfl
              · rw [if_neg hcount, if_neg hcount]
                simp only [run_get, hh, run_modify, run_pure]
                rfl

theorem call_retire (registry : SeriesRegistry) (seriesId : SeriesId)
    (expectedRevision : DeclarationRevision) (evidence : DeclarationEvidence) :
    registry.call (.retire seriesId expectedRevision evidence) =
      registry.settle .retired (registry.retire seriesId expectedRevision evidence) := by
  unfold call retireInPlace retire
  simp only [run_get]
  cases hh : registry.history seriesId with
  | none => rfl
  | some history =>
    dsimp only
    cases hretired : history.retirement with
    | some retirement =>
      dsimp only
      split
      next => rfl
      next => rfl
    | none =>
      cases hlatest : history.latestDeclaration with
      | none => rfl
      | some latest =>
        simp only [settle_refuse]
        by_cases hstale : latest.revision ≠ expectedRevision
        · rw [if_pos hstale, if_pos hstale]
          rfl
        · rw [if_neg hstale, if_neg hstale]
          simp only [run_get, hh, run_modify, run_pure]
          rfl

/-- A call that is answered goes on with what the method returns beside the answer, and one that
is refused leaves everything as it was. -/
theorem call_cases (registry : SeriesRegistry) (call : RegistryCall) :
    (∃ error, registry.call call = (.error error, registry)) ∨
      ∃ answer next, registry.call call = (.ok answer, next) := by
  have hsettle : ∀ {α : Type} (answer : α → RegistryAnswer)
      (result : Except ModelError (α × SeriesRegistry)),
      (∃ error, registry.settle answer result = (.error error, registry)) ∨
        ∃ answered next, registry.settle answer result = (.ok answered, next) := by
    intro α answer result
    cases result with
    | error error => exact Or.inl ⟨error, rfl⟩
    | ok output => exact Or.inr ⟨answer output.1, output.2, rfl⟩
  cases call with
  | register seriesId binding payload evidence =>
    rw [call_register]
    exact hsettle _ _
  | revise seriesId expectedRevision payload evidence =>
    rw [call_revise]
    exact hsettle _ _
  | retire seriesId expectedRevision evidence =>
    rw [call_retire]
    exact hsettle _ _

end SeriesRegistry

end Historian
