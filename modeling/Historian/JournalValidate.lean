import Historian.JournalAdmission

namespace Historian

open Wire Checks

/-- The revision that must precede a decoded one: none for the first, else the one below it. -/
def expectedPrevious (revision : DeclarationRevision) :
    Except JournalV1Error (Option DeclarationRevision) :=
  if revision.value = DeclarationRevision.first.value then .ok none
  else ((DeclarationRevision.new (revision.value - 1)).mapError
    fun _ => .invalidCanonicalData).map some

/-- Each lineage against the canonical observation it is paired with. -/
def validateLineages (lifecycle : CaptureLifecycle) :
    Option UInt8 → List DecodedObservationLineageV1 → List Observation → Except JournalV1Error Unit
  | _, [], _ => .ok ()
  | _, _ :: _, [] => .ok ()
  | previousOrdinal, lineage :: lineages, canonical :: observations => do
    refuse (lineage.canonicalObservationId ≠ canonical.observationId ∨
      (∃ previous ∈ previousOrdinal, lineage.ordinal ≤ previous) ∨
      lineage.raw.snapshotId ≠ lifecycle.snapshot.evidenceId ∨
      lineage.normalized.rawRecordId ≠ lineage.raw.evidenceId ∨
      lineage.normalized.observationEvidenceId ≠ lineage.observation.evidenceId ∨
      (∃ idempotency ∈ lineage.raw.idempotency,
        idempotency.content ≠ lineage.raw.artifact.content)) .invalidCanonicalData
    validateLineages lifecycle (some lineage.ordinal) lineages observations

def validateDecodedEvidence (admission : DecodedAdmissionV1) : Except JournalV1Error Unit :=
  match admission.evidence with
  | .observed observations gaps => do
    refuse (observations.length ≠ admission.envelope.observations.length ∨
      gaps.length ≠ admission.envelope.gaps.length) .invalidCanonicalData
    validateLineages admission.lifecycle none observations admission.envelope.observations
    refuse ((gaps.zip admission.envelope.gaps).any (fun pair => !pair.2.sameRange pair.1) = true)
      .invalidCanonicalData
  | .noChange => .ok ()

/-- No identity may equal one of those listed before it. -/
def validateEvidenceIds (evidenceIds : List EvidenceId) : Except JournalV1Error Unit :=
  evidenceIds.zipIdx.forM fun (evidenceId, index) =>
    refuse (evidenceId ∈ evidenceIds.take index) .invalidCanonicalData

def validateDecoded (admission : DecodedAdmissionV1) : Except JournalV1Error Unit := do
  let declaration := admission.declaration
  let envelope := admission.envelope
  let metadata := envelope.series
  let payload := declaration.payload
  refuse (admission.storeId ≠ declaration.storeId ∨ declaration.seriesId ≠ metadata.seriesId ∨
    payload.producerId ≠ metadata.producerId ∨
    payload.collectionMode ≠ metadata.collectionMode ∨
    admission.retry.seriesId ≠ metadata.seriesId ∨
    admission.retry.producerId ≠ metadata.producerId) .invalidCanonicalData
  let previous ← expectedPrevious declaration.revision
  refuse (declaration.previousRevision ≠ previous) .invalidCanonicalData
  let expectedInterval := envelope.evidenceKind.interval
  refuse (admission.batch.interval ≠ expectedInterval ∨ admission.evidenceKind ≠ expectedInterval)
    .invalidCanonicalData
  let source := declaration.binding.source
  match source.projection with
  | none => .error .invalidCanonicalData
  | some projection =>
    refuse (admission.lifecycle.system.provider ≠ source.provider ∨
      admission.lifecycle.system.projection ≠ projection ∨
      admission.lifecycle.endpoint.locator ≠ source.locator) .invalidCanonicalData
  refuse (envelope.observations.any (fun observation =>
    !payload.valueFamily.admits observation.value) = true) .invalidCanonicalData
  validateDecodedEvidence admission
  validateEvidenceIds (allEvidenceIds admission)

theorem expectedPrevious_eq (revision : DeclarationRevision) :
    expectedPrevious revision = .ok revision.previous? := by
  have hpos := revision.positive
  unfold expectedPrevious DeclarationRevision.previous?
  by_cases h : revision.value = DeclarationRevision.first.value
  · rw [if_pos h, dif_neg]
    rw [h]
    decide
  · have hne : revision.value.val ≠ 1 := fun hv => h (Fin.ext hv)
    have hsub : (revision.value - 1).val = revision.value.val - 1 := by
      rw [Fin.sub_val_of_le]
      · rfl
      · exact hpos
    have hnew : DeclarationRevision.new (revision.value - 1) =
        .ok ⟨⟨revision.value.val - 1, by omega⟩, by simp only; omega⟩ := by
      rw [DeclarationRevision.new_ok]
      exact Fin.ext hsub
    rw [if_neg h, dif_pos (by omega), hnew]
    rfl

/-- The quadratic scan of the decoder finds a repetition exactly when there is one. -/
theorem validateEvidenceIds_ok {evidenceIds : List EvidenceId} :
    validateEvidenceIds evidenceIds = .ok () ↔ evidenceIds.Nodup := by
  unfold validateEvidenceIds
  rw [forM_ok, List.nodup_iff_pairwise_ne, List.pairwise_iff_getElem]
  simp only [refuse_ok]
  constructor
  · intro h i j hi hj hij heq
    have hm : (evidenceIds[j], j) ∈ evidenceIds.zipIdx := by
      simp [List.mem_zipIdx_iff_getElem?, hj]
    apply h _ hm
    rw [← heq]
    exact List.mem_take_iff_getElem.mpr ⟨i, by omega, rfl⟩
  · rintro h ⟨evidenceId, index⟩ hm ht
    obtain ⟨i, hi, heq⟩ := List.mem_take_iff_getElem.mp ht
    obtain ⟨hlt, hj⟩ := List.getElem?_eq_some_iff.mp (List.mem_zipIdx_iff_getElem?.mp hm)
    exact h i index (by omega) hlt (by omega) (heq.trans hj.symm)

end Historian
