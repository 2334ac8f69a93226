import Historian.JournalFrame
import Historian.Readmission

namespace Historian

open Wire Checks

theorem encodeCounted_map {α β : Type} {encode : β → Enc Unit} {encode' : α → Enc Unit} (f : α → β)
    (h : ∀ x, encode (f x) = encode' x) (xs : List α) :
    encodeCounted encode (xs.map f) = encodeCounted encode' xs := by
  unfold encodeCounted
  simp [List.forM_eq_forM, h]

/-- An admission and its decoded record are written by the same steps. -/
theorem encodeDecodedPayload_mirror (admission : CanonicalAdmission) (appendSequence : U64) :
    encodeDecodedPayload (admission.mirror appendSequence) = encodeCanonicalPayload admission := by
  obtain ⟨_, _, _, _, _, _, evidence⟩ := admission
  cases evidence with
  | noChange => rfl
  | observed observations gaps =>
    have hlineages : encodeCounted encodeDecodedLineage (observations.map (·.mirror)) =
        encodeCounted encodeLineage observations :=
      encodeCounted_map _ (fun _ => rfl) observations
    unfold encodeDecodedPayload encodeCanonicalPayload
    simp only [CanonicalAdmission.mirror, AdmissionEvidence.mirror]
    rw [hlineages]
    rfl

theorem encodeAdmissionFrameV1_eq (sequence : AppendSequenceV1) (admission : CanonicalAdmission) :
    encodeAdmissionFrameV1 sequence admission =
      encodeDecodedAdmissionFrameV1 (admission.mirror sequence.value) := by
  unfold encodeAdmissionFrameV1 encodeDecodedAdmissionFrameV1
  rw [encodeDecodedPayload_mirror]
  rfl

/-- A canonical record's lists are as long as its envelope's, which are bounded. -/
theorem bounded_of_validateDecoded {decoded : DecodedAdmissionV1}
    (h : validateDecoded decoded = .ok ()) : decoded.evidence.Bounded := by
  have hbounds := decoded.envelope.lengths_le
  obtain ⟨-, -, -, -, -, hevidence, -⟩ := validateDecoded_ok.mp h
  obtain ⟨_, _, _, _, _, _, _, evidence⟩ := decoded
  cases evidence with
  | noChange => trivial
  | observed observations gaps =>
    simp only [validateDecodedEvidence, then_ok, refuse_ok, not_or, not_not] at hevidence
    obtain ⟨⟨hobservations, hgaps⟩, -⟩ := hevidence
    refine ⟨?_, ?_⟩
    · rw [hobservations]
      exact hbounds.1
    · rw [hgaps]
      exact hbounds.2

theorem AppendSequenceV1.ext_value {a b : AppendSequenceV1} (h : a.value.val = b.value.val) :
    a = b := by
  obtain ⟨⟨a, _⟩, _⟩ := a
  obtain ⟨⟨b, _⟩, _⟩ := b
  cases h
  rfl

theorem AppendSequenceV1.successor_ok {previous sequence : AppendSequenceV1} :
    previous.successor = .ok sequence ↔ previous.value.val + 1 = sequence.value.val := by
  unfold AppendSequenceV1.successor
  rw [dite_ok]
  constructor
  · rintro ⟨_, rfl⟩
    rfl
  · intro h
    have hlt : previous.value.val + 1 < 2 ^ 64 := by
      rw [h]
      exact sequence.value.isLt
    exact ⟨hlt, AppendSequenceV1.ext_value h⟩

/-- A sequence follows nothing, or the one before it. -/
theorem followsPrevious_ok {sequence : AppendSequenceV1} {previous : Option AppendSequenceV1} :
    followsPrevious sequence previous = .ok () ↔
      ∀ before ∈ previous, before.value.val + 1 = sequence.value.val := by
  cases previous with
  | none => simp [followsPrevious]
  | some before =>
    simp only [followsPrevious, bind_ok, refuse_ok, AppendSequenceV1.successor_ok, not_not,
      Option.mem_some_iff, forall_eq']
    constructor
    · rintro ⟨_, hnext, rfl⟩
      exact hnext
    · intro hnext
      exact ⟨sequence, hnext, rfl⟩

/-- The frame of a canonical record decodes to the record. -/
theorem decode_frame_of_valid {decoded : DecodedAdmissionV1} {sequence : AppendSequenceV1}
    {bytes : Bytes} {previous : Option AppendSequenceV1}
    (hvalid : validateDecoded decoded = .ok ()) (hseq : sequence.value = decoded.appendSequence)
    (hencode : encodeDecodedAdmissionFrameV1 decoded = .ok bytes)
    (hprevious : ∀ before ∈ previous, before.value.val + 1 = sequence.value.val) :
    decodeAdmissionFrameV1 bytes .maximum previous = .ok decoded := by
  have hcodec := codec_payload sequence.value
  obtain ⟨payload, hwrites⟩ := hcodec.writes decoded ⟨hseq, bounded_of_validateDecoded hvalid⟩
  obtain ⟨hlen, rfl⟩ := (encodeDecodedAdmissionFrameV1_ok hwrites).mp hencode
  rw [decodeAdmissionFrameV1_ok, ← hseq]
  refine ⟨sequence, payload, rfl, hlen, followsPrevious_ok.mpr hprevious, ?_, hvalid⟩
  have hread := hcodec.decode_writes ⟨hseq, bounded_of_validateDecoded hvalid⟩ hwrites []
  rwa [List.append_nil] at hread

/-- Every frame written for an admission decodes to the admission, at its sequence, with no
previous sequence and with the one before it. -/
theorem decode_encodeAdmissionFrameV1 (registry : SeriesRegistry)
    (hreachable : registry.Reachable) (admission : CanonicalAdmission)
    (hadmission : admission.Constructible registry) (sequence : AppendSequenceV1) (bytes : Bytes)
    (hencode : encodeAdmissionFrameV1 sequence admission = .ok bytes)
    (previous : Option AppendSequenceV1)
    (hprevious : ∀ before ∈ previous, before.value.val + 1 = sequence.value.val) :
    decodeAdmissionFrameV1 bytes .maximum previous =
      .ok (admission.mirror sequence.value) := by
  have hvalid := hadmission.validateDecoded_mirror hreachable.coherent sequence.value
  rw [encodeAdmissionFrameV1_eq] at hencode
  exact decode_frame_of_valid hvalid rfl hencode hprevious

def sampleSequence : AppendSequenceV1 := ⟨1, by decide⟩

def sampleAdmission : CanonicalAdmission :=
  ⟨sampleIdentity 1, sampleDeclaration, sampleEnvelope, sampleRetry 'k' sampleKey_printable,
    ⟨sampleReference, ⟨1, DeclarationRevision.first.positive⟩, .observed⟩, sampleLifecycle,
    .observed [(sampleLineage.context sampleDeclaration.mirror).retained] []⟩

theorem sampleDecoded_encodes :
    ∃ bytes, encodeDecodedAdmissionFrameV1 sampleDecoded = .ok bytes := by
  apply exists_ok
  decide +kernel

theorem sampleDecoded_frame : ∃ bytes,
    encodeDecodedAdmissionFrameV1 sampleDecoded = .ok bytes ∧
      decodeAdmissionFrameV1 bytes .maximum none = .ok sampleDecoded := by
  obtain ⟨bytes, hencode⟩ := sampleDecoded_encodes
  have hvalid : validateDecoded sampleDecoded = .ok () := by decide +kernel
  exact ⟨bytes, hencode, decode_frame_of_valid hvalid (show sampleSequence.value = _ from rfl)
    hencode (by simp)⟩

theorem decode_encodeAdmissionFrameV1_sample :
    ∃ bytes, encodeAdmissionFrameV1 sampleSequence sampleAdmission = .ok bytes ∧
      decodeAdmissionFrameV1 bytes .maximum none = .ok (sampleAdmission.mirror 1) := by
  obtain ⟨bytes, hencode⟩ := sampleDecoded_encodes
  have hadmit : sampleDecoded.readmit sampleRegistry = .ok sampleAdmission := by decide +kernel
  have hframe : encodeAdmissionFrameV1 sampleSequence sampleAdmission = .ok bytes := by
    rw [encodeAdmissionFrameV1_eq]
    exact hencode
  exact ⟨bytes, hframe, decode_encodeAdmissionFrameV1 sampleRegistry sampleRegistry_reachable
    sampleAdmission (readmit_constructible hadmit) sampleSequence bytes hframe none (by simp)⟩

/-- Every accepted byte string is what its record is encoded as, whatever the limits and the
previous sequence, so no two byte strings are accepted as one record. -/
theorem accepted_frames_canonical (bytes : Bytes) (limits : DecodeLimitsV1)
    (previous : Option AppendSequenceV1) (decoded : DecodedAdmissionV1)
    (h : decodeAdmissionFrameV1 bytes limits previous = .ok decoded) :
    encodeDecodedAdmissionFrameV1 decoded = .ok bytes ∧
      ∀ (other : Bytes) (otherLimits : DecodeLimitsV1) (otherPrevious : Option AppendSequenceV1),
        decodeAdmissionFrameV1 other otherLimits otherPrevious = .ok decoded → other = bytes := by
  have hbytes := encode_of_decode_frame h
  refine ⟨hbytes, ?_⟩
  intro other otherLimits otherPrevious hother
  exact Except.ok.inj ((encode_of_decode_frame hother).symm.trans hbytes)

theorem accepted_frames_canonical_sample :
    ∃ bytes, decodeAdmissionFrameV1 bytes .maximum none = .ok sampleDecoded ∧
      encodeDecodedAdmissionFrameV1 sampleDecoded = .ok bytes := by
  obtain ⟨bytes, -, hdecode⟩ := sampleDecoded_frame
  exact ⟨bytes, hdecode,
    (accepted_frames_canonical bytes .maximum none sampleDecoded hdecode).1⟩

end Historian
