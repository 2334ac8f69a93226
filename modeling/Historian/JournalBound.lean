import Historian.JournalRoundTrip
import Historian.WireBound

namespace Historian

open Wire Checks

theorem bound_u8 (value : UInt8) : WritesAtMost (encodeU8 value) 1 :=
  WritesAtMost.put (Nat.le_refl _)

theorem bound_u32 (value : U32) : WritesAtMost (encodeU32 value) 4 :=
  WritesAtMost.put (by rw [length_toBE])

theorem bound_u64 (value : U64) : WritesAtMost (encodeU64 value) 8 :=
  WritesAtMost.put (by rw [length_toBE])

theorem bound_u128 (value : U128) : WritesAtMost (encodeU128 value) 16 :=
  WritesAtMost.put (by rw [length_toBE])

theorem bound_i64 (value : Int64) : WritesAtMost (encodeI64 value) 8 := bound_u64 _

theorem bound_flag (present : Bool) : WritesAtMost (encodeFlag present) 1 := bound_u8 _

theorem bound_identity {family : IdentityFamily} (id : Identity family) :
    WritesAtMost (encodeIdentity id) 16 :=
  WritesAtMost.put (Nat.le_of_eq id.length_eq)

theorem bound_optional {α : Type} {enc : α → Enc Unit} {n : Nat}
    (h : ∀ x, WritesAtMost (enc x) n) (o : Option α) :
    WritesAtMost (encodeOptional enc o) (1 + n) :=
  WritesAtMost.option bound_flag h o

theorem bound_string {value : Text} {n : Nat} (h : value.len ≤ n) (hn : n < 2 ^ 32) :
    WritesAtMost (encodeString value) (4 + n) := by
  unfold encodeString
  rw [dif_pos (Nat.lt_of_le_of_lt h hn)]
  exact (bound_u32 _).seq (WritesAtMost.put h)

theorem bound_count {n : Nat} (h : n < 2 ^ 32) : WritesAtMost (encodeCount n) 4 := by
  unfold encodeCount
  rw [dif_pos h]
  exact bound_u32 _

theorem bound_counted {α : Type} {enc : α → Enc Unit} {n count : Nat} {items : List α}
    (hcount : items.length ≤ count) (hlt : count < 2 ^ 32)
    (h : ∀ x, WritesAtMost (enc x) n) :
    WritesAtMost (encodeCounted enc items) (4 + count * n) := by
  have hitems := WritesAtMost.forM items fun x _ => h x
  exact (bound_count (Nat.lt_of_le_of_lt hcount hlt)).seq
    (hitems.mono (Nat.mul_le_mul_right n hcount))

theorem bound_reference (reference : DeclarationReference) :
    WritesAtMost (encodeString reference.value) 4100 :=
  bound_string (validateDeclarationReference_len reference.isValid) (by decide)

theorem bound_token (token : PortableToken) : WritesAtMost (encodeString token.value) 260 :=
  bound_string (validatePrintableAscii_len token.isValid) (by decide)

theorem bound_retryKey (key : RetryKey) : WritesAtMost (encodeString key.value) 132 :=
  bound_string (validatePrintableAscii_len key.isValid) (by decide)

theorem bound_text (text : ExactText) : WritesAtMost (encodeString text.value) 16388 :=
  bound_string (validateExactText_len text.isValid) (by decide)

theorem bound_content (content : ContentIdentity) : WritesAtMost (encodeContent content) 116 :=
  WritesAtMost.mono
    ((bound_string (validateContentFormat_len content.format.isValid) (by decide)).seq
    ((bound_u128 _).seq (WritesAtMost.put (Nat.le_of_eq content.sha256_length)))) (by decide)

theorem bound_artifact (artifact : ArtifactReference) :
    WritesAtMost (encodeArtifact artifact) 132 :=
  WritesAtMost.mono ((bound_identity _).seq (bound_content _)) (by decide)

theorem bound_timestamp (timestamp : Timestamp) : WritesAtMost (encodeTimestamp timestamp) 12 :=
  WritesAtMost.mono ((bound_i64 _).seq (bound_u32 _)) (by decide)

theorem bound_timeInterval (interval : TimeInterval) :
    WritesAtMost (encodeTimeInterval interval) 24 :=
  WritesAtMost.mono ((bound_timestamp _).seq (bound_timestamp _)) (by decide)

theorem bound_optionalIdempotency (evidence : Option SourceIdempotency) :
    WritesAtMost (encodeOptionalIdempotency evidence) 249 :=
  WritesAtMost.mono (bound_optional (fun _ => (bound_retryKey _).seq (bound_content _)) evidence)
    (by decide)

theorem bound_binding (binding : SeriesBinding) : WritesAtMost (encodeBinding binding) 12301 :=
  WritesAtMost.mono
    ((bound_reference _).seq ((bound_optional bound_reference _).seq (bound_reference _)))
    (by decide)

theorem bound_quantity (quantity : QuantityEvidence) :
    WritesAtMost (encodeQuantity quantity) 4101 := by
  cases quantity with
  | absent => exact (bound_u8 _).mono (by decide)
  | resolved reference => exact ((bound_u8 _).seq (bound_reference reference)).mono (by decide)
  | unresolved reference => exact ((bound_u8 _).seq (bound_reference reference)).mono (by decide)

theorem bound_unit (unit : UnitEvidence) : WritesAtMost (encodeUnit unit) 4101 := by
  cases unit with
  | absent => exact (bound_u8 _).mono (by decide)
  | resolved reference => exact ((bound_u8 _).seq (bound_reference reference)).mono (by decide)
  | unresolved reference => exact ((bound_u8 _).seq (bound_reference reference)).mono (by decide)

theorem bound_declarationPayload (payload : SeriesDeclarationPayload) :
    WritesAtMost (encodeDeclarationPayload payload) 12321 :=
  WritesAtMost.mono
    ((bound_identity _).seq ((bound_u8 _).seq ((bound_u8 _).seq ((bound_quantity _).seq
    ((bound_unit _).seq (bound_optional bound_reference _)))))) (by decide)

theorem bound_declaration (declaration : DecodedDeclarationV1) :
    WritesAtMost (encodeDecodedDeclaration declaration) 24832 :=
  WritesAtMost.mono ((bound_identity _).seq ((bound_identity _).seq ((bound_u128 _).seq
    ((bound_optional (fun _ => bound_u128 _) _).seq ((bound_binding _).seq
    ((bound_declarationPayload _).seq
    ((bound_timestamp _).seq (bound_optional bound_artifact _)))))))) (by decide)

theorem bound_exactValue (value : ExactValue) : WritesAtMost (encodeExactValue value) 16389 := by
  cases value with
  | real value => exact ((bound_u8 _).seq (bound_u64 _)).mono (by decide)
  | signed value => exact ((bound_u8 _).seq (bound_i64 _)).mono (by decide)
  | unsigned value => exact ((bound_u8 _).seq (bound_u64 _)).mono (by decide)
  | boolean value => exact ((bound_u8 _).seq (bound_u8 _)).mono (by decide)
  | state value =>
    exact ((bound_u8 _).seq ((bound_token _).seq (bound_token _))).mono (by decide)
  | text value => exact (bound_u8 _).seq (bound_text _)
  | artifact value => exact ((bound_u8 _).seq (bound_artifact _)).mono (by decide)
  | unavailable reason =>
    exact ((bound_u8 _).seq (bound_optional bound_token _)).mono (by decide)

theorem bound_nativeStatus (status : NativeStatus) :
    WritesAtMost (encodeNativeStatus status) 4164 :=
  bound_counted status.bounded (by decide) bound_token

theorem bound_observation (observation : Observation) :
    WritesAtMost (encodeObservation observation) 20666 :=
  WritesAtMost.mono ((bound_identity _).seq ((bound_exactValue _).seq
    (((bound_optional bound_timestamp _).seq
      ((bound_timestamp _).seq (bound_timestamp _))).seq
    (((bound_u8 _).seq (bound_u8 _)).seq ((bound_nativeStatus _).seq
    ((bound_optional (fun _ => (bound_u128 _).seq (bound_u128 _)) _).seq
    (bound_optional bound_timeInterval _))))))) (by decide)

theorem bound_gap (gap : Gap) : WritesAtMost (encodeGap gap) 49 :=
  WritesAtMost.mono ((bound_u128 _).seq ((bound_u128 _).seq ((bound_u128 _).seq (bound_u8 _))))
    (by decide)

theorem bound_sourceGap (gap : SourceGapEvidence) : WritesAtMost (encodeSourceGap gap) 49 :=
  WritesAtMost.mono ((bound_u128 _).seq ((bound_u128 _).seq ((bound_u128 _).seq (bound_u8 _))))
    (by decide)

theorem bound_envelope (envelope : CollectionEnvelope) :
    WritesAtMost (encodeEnvelope envelope) 5293674 := by
  have hlengths := envelope.lengths_le
  have hseries : WritesAtMost (encodeSeriesMetadata envelope.series) 33 :=
    (bound_identity _).seq ((bound_identity _).seq (bound_u8 _))
  obtain ⟨series, evidence, _⟩ := envelope
  cases evidence with
  | observed observations gaps =>
    exact hseries.seq ((bound_u8 _).seq
      ((bound_counted hlengths.1 (by decide) bound_observation).seq
        (bound_counted hlengths.2 (by decide) bound_gap)))
  | noChange interval =>
    exact (hseries.seq ((bound_u8 _).seq (bound_timeInterval interval))).mono (by decide)

theorem bound_retry (retry : RetryQualification) : WritesAtMost (encodeRetry retry) 280 :=
  WritesAtMost.mono
    ((bound_identity _).seq ((bound_identity _).seq ((bound_retryKey _).seq (bound_content _))))
    (by decide)

theorem bound_batch (batch : SourceBatchMetadata) : WritesAtMost (encodeBatch batch) 4117 :=
  WritesAtMost.mono ((bound_reference _).seq ((bound_u128 _).seq (bound_u8 _))) (by decide)

theorem bound_lifecycle (lifecycle : CaptureLifecycle) :
    WritesAtMost (encodeLifecycle lifecycle) 12569 :=
  WritesAtMost.mono (((bound_identity _).seq ((bound_reference _).seq (bound_reference _))).seq
    (((bound_identity _).seq ((bound_identity _).seq (bound_reference _))).seq
    (((bound_identity _).seq ((bound_identity _).seq ((bound_timestamp _).seq
      (bound_optional bound_timestamp _)))).seq
    ((bound_identity _).seq ((bound_identity _).seq (bound_artifact _)))))) (by decide)

theorem bound_lineage (lineage : DecodedObservationLineageV1) :
    WritesAtMost (encodeDecodedLineage lineage) 993 :=
  WritesAtMost.mono ((bound_u8 _).seq ((bound_identity _).seq
    (((bound_identity _).seq ((bound_optional bound_artifact _).seq ((bound_u8 _).seq
      (bound_optionalIdempotency _)))).seq
    (((bound_identity _).seq ((bound_identity _).seq ((bound_artifact _).seq
      (bound_optionalIdempotency _)))).seq
    ((bound_identity _).seq ((bound_identity _).seq ((bound_content _).seq
      (bound_identity _)))))))) (by decide)

theorem bound_evidence {evidence : DecodedEvidenceV1} (h : evidence.Bounded) :
    WritesAtMost (encodeDecodedEvidence evidence) 257353 := by
  cases evidence with
  | observed observations gaps =>
    exact (bound_u8 _).seq ((bound_counted h.1 (by decide) bound_lineage).seq
      (bound_counted h.2 (by decide) bound_sourceGap))
  | noChange => exact ((bound_u8 _).seq WritesAtMost.nil).mono (by decide)

/-- Every record with bounded lists fits the payload maximum, with room to spare. -/
theorem bound_payload {decoded : DecodedAdmissionV1} (h : decoded.evidence.Bounded) :
    WritesAtMost (encodeDecodedPayload decoded) maxAdmissionPayloadV1 := by
  have hsum : WritesAtMost (encodeDecodedPayload decoded) 5592841 :=
    (bound_identity _).seq ((bound_declaration _).seq ((bound_envelope _).seq
      ((bound_retry _).seq ((bound_batch _).seq ((bound_lifecycle _).seq
      (bound_evidence h))))))
  exact hsum.mono (by decide)

/-- Every valid record has a frame, which decodes to it. -/
theorem exists_frame_of_valid {decoded : DecodedAdmissionV1}
    (hvalid : validateDecoded decoded = .ok ()) (hpos : 0 < decoded.appendSequence.val) :
    ∃ bytes, encodeDecodedAdmissionFrameV1 decoded = .ok bytes ∧
      decodeAdmissionFrameV1 bytes .maximum none = .ok decoded := by
  obtain ⟨payload, hwrites, hlength⟩ := bound_payload (bounded_of_validateDecoded hvalid)
  have hencode := (encodeDecodedAdmissionFrameV1_ok hwrites).mpr ⟨hlength, rfl⟩
  have hsequence : (⟨decoded.appendSequence, hpos⟩ : AppendSequenceV1).value =
      decoded.appendSequence := rfl
  exact ⟨_, hencode, decode_frame_of_valid hvalid hsequence hencode (by simp)⟩

end Historian
