import Historian.Declaration
import Historian.SortedMap

namespace Historian

open Checks

structure SeriesRetirement where
  declarationRevision : DeclarationRevision
  evidence : DeclarationEvidence
  deriving DecidableEq

structure SeriesHistory where
  seriesId : SeriesId
  binding : SeriesBinding
  declarations : List SeriesDeclaration
  retirement : Option SeriesRetirement
  deriving DecidableEq

def SeriesHistory.latestDeclaration (history : SeriesHistory) : Option SeriesDeclaration :=
  history.declarations.getLast?

structure SeriesRegistryLimits where
  maxSeries : U64
  maxDeclarationRevisions : U64
  deriving DecidableEq

structure SeriesRegistrySnapshot where
  storeId : StoreId
  limits : SeriesRegistryLimits
  declarationRevisionCount : Nat
  series : List SeriesHistory
  deriving DecidableEq

structure SeriesRegistry where
  storeId : StoreId
  limits : SeriesRegistryLimits
  declarationRevisionCount : Nat
  series : List (SeriesId × SeriesHistory)
  deriving DecidableEq

namespace SeriesRegistry

def new (storeId : StoreId) (limits : SeriesRegistryLimits) : SeriesRegistry :=
  ⟨storeId, limits, 0, []⟩

def history (registry : SeriesRegistry) (seriesId : SeriesId) : Option SeriesHistory :=
  SortedMap.get? seriesId registry.series

def resolve (registry : SeriesRegistry) (seriesId : SeriesId) (revision : DeclarationRevision) :
    Option SeriesDeclaration := do
  let history ← registry.history seriesId
  history.declarations.find? (·.revision = revision)

def snapshot (registry : SeriesRegistry) : SeriesRegistrySnapshot :=
  ⟨registry.storeId, registry.limits, registry.declarationRevisionCount, registry.series.map (·.2)⟩

/-- A refused call leaves the registry as it was: only the accepted results carry a new one. -/
def register (registry : SeriesRegistry) (seriesId : SeriesId) (binding : SeriesBinding)
    (payload : SeriesDeclarationPayload) (evidence : DeclarationEvidence) :
    Except ModelError (SeriesDeclaration × SeriesRegistry) :=
  match registry.history seriesId with
  | some history => do
    refuse (history.retirement ≠ none) .seriesRetired
    match history.declarations with
    | [] => .error .seriesNotFound
    | initial :: later =>
      if later = [] ∧ history.binding = binding ∧ initial.payload = payload ∧
          initial.evidence = evidence then .ok (initial, registry)
      else .error .seriesAlreadyRegistered
  | none => do
    refuse (registry.limits.maxSeries.val ≤ registry.series.length) .registrySeriesCapacityExceeded
    refuse (registry.limits.maxDeclarationRevisions.val ≤ registry.declarationRevisionCount)
      .registryRevisionCapacityExceeded
    let declaration : SeriesDeclaration :=
      ⟨registry.storeId, seriesId, .first, none, binding, payload, evidence⟩
    let history : SeriesHistory := ⟨seriesId, binding, [declaration], none⟩
    pure (declaration, { registry with
      declarationRevisionCount := registry.declarationRevisionCount + 1
      series := SortedMap.insert Identity.lt seriesId history registry.series })

def revise (registry : SeriesRegistry) (seriesId : SeriesId)
    (expectedRevision : DeclarationRevision) (payload : SeriesDeclarationPayload)
    (evidence : DeclarationEvidence) : Except ModelError (SeriesDeclaration × SeriesRegistry) :=
  match registry.history seriesId with
  | none => .error .seriesNotFound
  | some history => do
    refuse (history.retirement ≠ none) .seriesRetired
    match history.latestDeclaration with
    | none => .error .seriesNotFound
    | some current =>
      if current.previousRevision = some expectedRevision ∧ current.payload = payload ∧
          current.evidence = evidence then .ok (current, registry)
      else do
        refuse (current.revision ≠ expectedRevision) .staleDeclarationRevision
        refuse (current.payload = payload) .declarationUnchanged
        refuse (registry.limits.maxDeclarationRevisions.val ≤ registry.declarationRevisionCount)
          .registryRevisionCapacityExceeded
        let declaration : SeriesDeclaration := ⟨registry.storeId, seriesId, current.revision.next,
          some expectedRevision, history.binding, payload, evidence⟩
        pure (declaration, { registry with
          declarationRevisionCount := registry.declarationRevisionCount + 1
          series := SortedMap.modify seriesId
            (fun h => { h with declarations := h.declarations ++ [declaration] }) registry.series })

def retire (registry : SeriesRegistry) (seriesId : SeriesId)
    (expectedRevision : DeclarationRevision) (evidence : DeclarationEvidence) :
    Except ModelError (SeriesRetirement × SeriesRegistry) :=
  match registry.history seriesId with
  | none => .error .seriesNotFound
  | some history =>
    match history.retirement with
    | some retirement =>
      if retirement.declarationRevision = expectedRevision ∧ retirement.evidence = evidence then
        .ok (retirement, registry)
      else .error .seriesRetired
    | none =>
      match history.latestDeclaration with
      | none => .error .seriesNotFound
      | some latest => do
        refuse (latest.revision ≠ expectedRevision) .staleDeclarationRevision
        let retirement : SeriesRetirement := ⟨expectedRevision, evidence⟩
        pure (retirement, { registry with
          series := SortedMap.modify seriesId
            (fun h => { h with retirement := some retirement }) registry.series })

end SeriesRegistry

/-- An envelope together with the declaration that authorises it. -/
structure DeclaredCollectionEnvelope where
  storeId : StoreId
  declaration : SeriesDeclaration
  envelope : CollectionEnvelope
  deriving DecidableEq

def SeriesRegistry.bind (registry : SeriesRegistry) (envelope : CollectionEnvelope) :
    Except ModelError DeclaredCollectionEnvelope :=
  match registry.history envelope.series.seriesId with
  | none => .error .seriesNotFound
  | some history => do
    refuse (history.retirement ≠ none) .seriesRetired
    match history.latestDeclaration with
    | none => .error .seriesNotFound
    | some declaration => do
      refuse (envelope.series ≠ declaration.payload.seriesMetadata envelope.series.seriesId)
        .seriesMetadataMismatch
      refuse (envelope.observations.any (fun observation =>
        !declaration.payload.valueFamily.admits observation.value) = true)
        .observationValueFamilyMismatch
      pure ⟨registry.storeId, declaration, envelope⟩

end Historian
