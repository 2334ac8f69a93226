import Historian.JournalBound

namespace Historian

open Wire Checks

/-- An admission encoded before the writer gives it a sequence. -/
structure PreparedAdmissionV1 where
  admission : CanonicalAdmission
  payload : Bytes
  frameLen : Nat
  deriving DecidableEq

/-- The refusal carries the admission back to its owner. -/
structure PrepareAdmissionError where
  error : JournalV1Error
  admission : CanonicalAdmission
  deriving DecidableEq

def PreparedAdmissionV1.new (admission : CanonicalAdmission) :
    Except PrepareAdmissionError PreparedAdmissionV1 :=
  match admissionFrameLenV1 admission with
  | .error error => .error ⟨error, admission⟩
  | .ok frameLen =>
    match encodeBytes (encodeCanonicalPayload admission) with
    | .error error => .error ⟨error, admission⟩
    | .ok payload =>
      if journalV1FramePrefixLen + payload.length + journalV1FrameCrcLen = frameLen then
        .ok ⟨admission, payload, frameLen⟩
      else .error ⟨.invalidCanonicalData, admission⟩

structure PreparedFrameV1 where
  admission : CanonicalAdmission
  appendSequence : AppendSequenceV1
  bytes : Bytes
  deriving DecidableEq

def PreparedAdmissionV1.intoFrame (prepared : PreparedAdmissionV1)
    (appendSequence : AppendSequenceV1) : Except PrepareAdmissionError PreparedFrameV1 :=
  match frameBytes appendSequence.value prepared.payload with
  | .error error => .error ⟨error, prepared.admission⟩
  | .ok bytes =>
    if bytes.length = prepared.frameLen then .ok ⟨prepared.admission, appendSequence, bytes⟩
    else .error ⟨.invalidCanonicalData, prepared.admission⟩

/-- Preparation never changes the admission. -/
theorem PreparedAdmissionV1.new_admission {admission : CanonicalAdmission}
    {prepared : PreparedAdmissionV1} (h : PreparedAdmissionV1.new admission = .ok prepared) :
    prepared.admission = admission := by
  unfold PreparedAdmissionV1.new at h
  split at h
  next => cases h
  next =>
    split at h
    next => cases h
    next =>
      split at h
      next =>
        cases h
        rfl
      next => cases h

/-- An admission that some registry a caller can hold has authorised. -/
def CanonicalAdmission.Built (admission : CanonicalAdmission) : Prop :=
  ∃ registry : SeriesRegistry, registry.Reachable ∧ admission.Constructible registry

theorem CanonicalAdmission.Built.bounded {admission : CanonicalAdmission} (h : admission.Built) :
    (admission.mirror 0).evidence.Bounded := by
  obtain ⟨registry, hreachable, hadmission⟩ := h
  exact bounded_of_validateDecoded (hadmission.validateDecoded_mirror hreachable.coherent 0)

/-- Measuring an admission never refuses it, and the measure is the length of its frame. -/
theorem CanonicalAdmission.Built.frameLen {admission : CanonicalAdmission} (h : admission.Built) :
    ∃ payload, Writes (encodeCanonicalPayload admission) payload ∧
      payload.length ≤ maxAdmissionPayloadV1 ∧
      admissionFrameLenV1 admission =
        .ok (journalV1FramePrefixLen + payload.length + journalV1FrameCrcLen) := by
  obtain ⟨payload, hwrites, hlen⟩ := bound_payload h.bounded
  rw [encodeDecodedPayload_mirror] at hwrites
  have hmax : maxAdmissionPayloadV1 < 2 ^ 64 := by decide
  obtain ⟨counted, hcount, hcounted⟩ := hwrites.count (by omega)
  refine ⟨payload, hwrites, hlen, ?_⟩
  unfold admissionFrameLenV1
  rw [hcount]
  change (do
    refuse (maxAdmissionPayloadV1 < counted.len) JournalV1Error.payloadTooLarge
    pure (journalV1FramePrefixLen + counted.len + journalV1FrameCrcLen)) = _
  rw [hcounted, then_ok, refuse_ok, pure_ok]
  exact ⟨by omega, rfl⟩

theorem CanonicalAdmission.Built.prepared {admission : CanonicalAdmission} (h : admission.Built) :
    ∃ prepared, PreparedAdmissionV1.new admission = .ok prepared ∧
      admissionFrameLenV1 admission = .ok prepared.frameLen := by
  obtain ⟨payload, hwrites, -, hmeasure⟩ := h.frameLen
  refine ⟨⟨admission, payload, _⟩, ?_, hmeasure⟩
  unfold PreparedAdmissionV1.new
  rw [hmeasure, encodeBytes_of_writes hwrites]
  simp

end Historian
