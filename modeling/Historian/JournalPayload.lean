import Historian.JournalRecords

namespace Historian

open Wire Checks

-- The two facts below are about all 256 bytes, so they are evaluated.
theorem QualityFlags.ofBits_bits :
    ∀ b : BitVec 8, b &&& ~~~0x3f#8 = 0#8 → (QualityFlags.ofBits b).bits = b := by
  decide +kernel

theorem QualityFlags.wire_bits :
    ∀ b : BitVec 8, ∀ h : b &&& 0xC0#8 = 0#8, (QualityFlags.mk b h).wire.toBitVec = b := by
  decide +kernel

theorem QualityFlags.ofWire_ok (byte : UInt8) (flags : QualityFlags) :
    QualityFlags.ofWire byte = .ok flags ↔ byte = flags.wire := by
  have hw : flags.wire.toBitVec = flags.bits := QualityFlags.wire_bits flags.bits flags.known
  unfold QualityFlags.ofWire
  constructor
  · intro h
    simp only at h
    split at h
    next => cases h
    next hm =>
      cases Except.ok.inj h
      apply UInt8.eq_of_toBitVec_eq
      rw [hw]
      exact (QualityFlags.ofBits_bits _ (by simpa using hm)).symm
  · rintro rfl
    have hm : flags.wire.toBitVec &&& ~~~0x3f#8 = 0#8 := by rw [hw]; exact flags.known
    have hb := QualityFlags.ofBits_bits _ hm
    rw [if_neg (by simpa using hm)]
    obtain ⟨bits, known⟩ := flags
    rw [hw] at hb ⊢
    cases h : QualityFlags.ofBits bits with
    | mk bits' known' =>
      rw [h] at hb
      cases hb
      rfl

theorem codec_quality : Codec (fun _ => True) encodeQuality decodeQuality := by
  apply Codec.field Quality.level (codec_tag QualityLevel.ofTag_ok) (fun _ _ => trivial)
  intro level _
  apply Codec.last (fun quality : Quality => quality.flags.wire) codec_u8 (fun _ _ => trivial)
  rintro byte _ bs ⟨_, flags⟩ rest
  simp only [decode_bind_ok, fromExcept_ok, decode_pure_ok, QualityFlags.ofWire_ok]
  constructor
  · rintro ⟨_, _, ⟨rfl, rfl⟩, ⟨⟩, rfl⟩
    exact ⟨⟨⟨trivial, rfl⟩, rfl⟩, rfl⟩
  · rintro ⟨⟨⟨-, rfl⟩, rfl⟩, rfl⟩
    exact ⟨flags, bs, ⟨rfl, rfl⟩, rfl, rfl⟩

theorem codec_nativeStatus : Codec (fun _ => True) encodeNativeStatus decodeNativeStatus := by
  have counted := codec_counted (show maxNativeStatusTokens < 2 ^ 32 by decide) codec_token
  apply Codec.checked NativeStatus.tokens counted
  · intro status _
    exact ⟨status.bounded, fun _ _ => trivial⟩
  · intro tokens _ status
    rw [mapError_ok, NativeStatus.new_ok, true_and]

def ExactValue.tag : ExactValue → UInt8
  | .real _ => 1 | .signed _ => 2 | .unsigned _ => 3 | .boolean _ => 4 | .state _ => 5
  | .text _ => 6 | .artifact _ => 7 | .unavailable _ => 8

def ExactValue.encodeBody : ExactValue → Enc Unit
  | .real value => encodeU64 value.bits
  | .signed value => encodeI64 value
  | .unsigned value => encodeU64 value
  | .boolean value => encodeU8 (if value then 1 else 0)
  | .state value => do
    encodeString value.stateClass.value
    encodeString value.member.value
  | .text value => encodeString value.value
  | .artifact value => encodeArtifact value
  | .unavailable reason => encodeOptional (fun r : UnavailableReason => encodeString r.value) reason

theorem codec_stateValue : Codec (fun _ => True)
    (fun value : StateValue => do
      encodeString value.stateClass.value
      encodeString value.member.value) decodeStateValue := by
  apply Codec.field StateValue.stateClass codec_token (fun _ _ => trivial)
  intro stateClass _
  apply Codec.map StateValue.member codec_token (fun _ _ => trivial)
  rintro member _ ⟨_, _⟩
  simp

theorem codec_exactValue : Codec (fun _ => True) encodeExactValue decodeExactValue := by
  have he : ∀ x, encodeExactValue x = (do encodeU8 x.tag; x.encodeBody) := by
    intro x
    cases x <;> rfl
  apply codec_variant he
  intro a
  split
  next =>
    apply Codec.inject (fun bits => ExactValue.real ⟨bits⟩) codec_u64 _ (fun _ => rfl)
    rintro (⟨_⟩ | _ | _ | _ | _ | _ | _ | _) <;> simp [ExactValue.tag]
  next =>
    apply Codec.inject ExactValue.signed codec_i64 _ (fun _ => rfl)
    intro x
    cases x <;> simp [ExactValue.tag]
  next =>
    apply Codec.inject ExactValue.unsigned codec_u64 _ (fun _ => rfl)
    intro x
    cases x <;> simp [ExactValue.tag]
  next =>
    apply Codec.inject ExactValue.boolean (codec_tag flagOfTag_ok) _ (fun _ => rfl)
    intro x
    cases x <;> simp [ExactValue.tag]
  next =>
    apply Codec.inject ExactValue.state codec_stateValue _ (fun _ => rfl)
    intro x
    cases x <;> simp [ExactValue.tag]
  next =>
    apply Codec.inject ExactValue.text codec_exactText _ (fun _ => rfl)
    intro x
    cases x <;> simp [ExactValue.tag]
  next =>
    apply Codec.inject ExactValue.artifact codec_artifact _ (fun _ => rfl)
    intro x
    cases x <;> simp [ExactValue.tag]
  next =>
    apply Codec.inject ExactValue.unavailable (codec_optional codec_token) _ (fun _ => rfl)
    intro x
    cases x <;> simp [ExactValue.tag]
  next =>
    apply Codec.refused
    intro x
    cases x <;> simpa [ExactValue.tag]

theorem codec_observationTimes :
    Codec (fun _ => True) encodeObservationTimes decodeObservationTimes := by
  apply Codec.field ObservationTimes.source codec_optionalTimestamp (fun _ _ => trivial)
  intro source _
  apply Codec.field ObservationTimes.receive codec_timestamp (fun _ _ => trivial)
  intro receive _
  apply Codec.map ObservationTimes.effective codec_timestamp (fun _ _ => trivial)
  rintro effective _ ⟨_, _, _⟩
  simp [and_assoc]

theorem codec_observation : Codec (fun _ => True) encodeObservation decodeObservation := by
  apply Codec.field Observation.observationId codec_identity (fun _ _ => trivial)
  intro observationId _
  apply Codec.field Observation.value codec_exactValue (fun _ _ => trivial)
  intro value _
  apply Codec.field Observation.times codec_observationTimes (fun _ _ => trivial)
  intro times _
  apply Codec.field Observation.quality codec_quality (fun _ _ => trivial)
  intro quality _
  apply Codec.field Observation.nativeStatus codec_nativeStatus (fun _ _ => trivial)
  intro nativeStatus _
  apply Codec.field Observation.producerPosition codec_optionalPosition (fun _ _ => trivial)
  intro producerPosition _
  apply Codec.map Observation.interval codec_optionalInterval (fun _ _ => trivial)
  rintro interval _ ⟨_, _, _, _, _, _, _⟩
  simp [and_assoc]

theorem codec_gap : Codec (fun _ => True) encodeGap decodeGap := by
  apply Codec.field Gap.epoch codec_u128 (fun _ _ => trivial)
  intro epoch _
  apply Codec.field Gap.start codec_u128 (fun _ _ => trivial)
  intro start _
  apply Codec.field Gap.stop codec_u128 (fun _ _ => trivial)
  intro stop _
  apply Codec.checked Gap.reason (codec_tag GapReason.ofTag_ok) (fun _ _ => trivial)
  intro reason _ gap
  rw [mapError_ok, Gap.new_ok]
  simp [and_assoc]

theorem codec_sourceGap : Codec (fun _ => True) encodeSourceGap decodeSourceGap := by
  apply Codec.field SourceGapEvidence.epoch codec_u128 (fun _ _ => trivial)
  intro epoch _
  apply Codec.field SourceGapEvidence.start codec_u128 (fun _ _ => trivial)
  intro start _
  apply Codec.field SourceGapEvidence.stop codec_u128 (fun _ _ => trivial)
  intro stop _
  apply Codec.checked SourceGapEvidence.reason (codec_tag SourceGapReason.ofTag_ok)
    (fun _ _ => trivial)
  intro reason _ gap
  rw [mapError_ok, SourceGapEvidence.new_ok]
  simp [and_assoc]

end Historian
