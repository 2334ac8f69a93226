import Historian.JournalDecode

namespace Historian

open Wire Checks

theorem codec_identity {family : IdentityFamily} :
    Codec (fun _ => True) (encodeIdentity : Identity family → Enc Unit) decodeIdentity := by
  apply Codec.checked (fun id : Identity family => id.bytes)
    (codec_take JournalV1Error.truncated 16)
  · intro id _
    exact id.length_eq
  · intro bytes _ id
    rw [mapError_ok, Identity.fromBytes_ok, true_and]

theorem codec_optional {α : Type} {enc : α → Enc Unit} {dec : Cursor α}
    (h : Codec (fun _ => True) enc dec) :
    Codec (fun _ => True) (encodeOptional enc) (decodeOptional dec) :=
  (Codec.option codec_flag h).congr (fun _ => by simp) (fun _ _ => rfl)

theorem codec_tag {α : Type} {tag : α → UInt8} {ofTag : UInt8 → Except JournalV1Error α}
    (h : ∀ a x, ofTag a = .ok x ↔ a = tag x) :
    Codec (fun _ => True) (fun x => encodeU8 (tag x)) (decodeTag ofTag) := codec_enum h

theorem codec_counted {α : Type} {P : α → Prop} {enc : α → Enc Unit} {dec : Cursor α}
    {maximum : Nat} (hm : maximum < 2 ^ 32) (h : Codec P enc dec) :
    Codec (fun xs => xs.length ≤ maximum ∧ ∀ x ∈ xs, P x) (encodeCounted enc)
      (decodeCounted maximum dec) := by
  apply Codec.field List.length (codec_count hm) (fun _ hx => hx.1)
  intro n hn
  refine (h.list n).congr ?_ (fun _ _ => rfl)
  intro xs
  constructor
  · rintro ⟨⟨_, hp⟩, rfl⟩
    exact ⟨rfl, hp⟩
  · rintro ⟨rfl, hp⟩
    exact ⟨⟨hn, hp⟩, rfl⟩

theorem codec_declarationReference :
    Codec (fun _ => True) encodeReference decodeDeclarationReference :=
  codec_checked (by decide) fun _ => validateDeclarationReference_len

theorem codec_sourceProjection :
    Codec (fun _ => True) encodeReference decodeSourceProjection :=
  codec_checked (by decide) fun _ => validateDeclarationReference_len

theorem codec_contentFormat :
    Codec (fun _ => True) (fun x : ContentFormat => encodeString x.value) decodeContentFormat :=
  codec_checked (by decide) fun _ => validateContentFormat_len

theorem codec_retryKey :
    Codec (fun _ => True) (fun x : RetryKey => encodeString x.value) decodeRetryKey :=
  codec_checked (by decide) fun _ => validatePrintableAscii_len

theorem codec_token :
    Codec (fun _ => True) (fun x : PortableToken => encodeString x.value) decodeToken :=
  codec_checked (by decide) fun _ => validatePrintableAscii_len

theorem codec_exactText :
    Codec (fun _ => True) (fun x : ExactText => encodeString x.value) decodeExactText :=
  codec_checked (by decide) fun _ => validateExactText_len

theorem CollectionMode.ofTag_ok (a : UInt8) (x : CollectionMode) :
    CollectionMode.ofTag a = .ok x ↔ a = x.tag := by
  unfold CollectionMode.ofTag
  split <;> cases x <;> simp_all [CollectionMode.tag]

theorem ValueFamily.ofTag_ok (a : UInt8) (x : ValueFamily) :
    ValueFamily.ofTag a = .ok x ↔ a = x.tag := by
  unfold ValueFamily.ofTag
  split <;> cases x <;> simp_all [ValueFamily.tag]

theorem SourceIntervalKind.ofTag_ok (a : UInt8) (x : SourceIntervalKind) :
    SourceIntervalKind.ofTag a = .ok x ↔ a = x.tag := by
  unfold SourceIntervalKind.ofTag
  split <;> cases x <;> simp_all [SourceIntervalKind.tag]

theorem QualityLevel.ofTag_ok (a : UInt8) (x : QualityLevel) :
    QualityLevel.ofTag a = .ok x ↔ a = x.tag := by
  unfold QualityLevel.ofTag
  split <;> cases x <;> simp_all [QualityLevel.tag]

theorem GapReason.ofTag_ok (a : UInt8) (x : GapReason) :
    GapReason.ofTag a = .ok x ↔ a = x.tag := by
  unfold GapReason.ofTag
  split <;> cases x <;> simp_all [GapReason.tag]

theorem SourceGapReason.ofTag_ok (a : UInt8) (x : SourceGapReason) :
    SourceGapReason.ofTag a = .ok x ↔ a = x.tag := by
  unfold SourceGapReason.ofTag
  split <;> cases x <;> simp_all [SourceGapReason.tag]

theorem SourceTransport.ofTag_ok (a : UInt8) (x : SourceTransport) :
    SourceTransport.ofTag a = .ok x ↔ a = x.tag := by
  unfold SourceTransport.ofTag
  split <;> cases x <;> simp_all [SourceTransport.tag]

theorem flagOfTag_ok (a : UInt8) (x : Bool) : flagOfTag a = .ok x ↔ a = if x then 1 else 0 := by
  unfold flagOfTag
  split <;> cases x <;> simp_all

theorem codec_collectionMode : Codec (fun _ => True) encodeCollectionMode decodeCollectionMode :=
  codec_tag CollectionMode.ofTag_ok

theorem codec_valueFamily : Codec (fun _ => True) encodeValueFamily decodeValueFamily :=
  codec_tag ValueFamily.ofTag_ok

theorem codec_sourceIntervalKind :
    Codec (fun _ => True) encodeSourceIntervalKind decodeSourceIntervalKind :=
  codec_tag SourceIntervalKind.ofTag_ok

theorem codec_timestamp : Codec (fun _ => True) encodeTimestamp decodeTimestamp := by
  apply Codec.field Timestamp.unixSeconds codec_i64 (fun _ _ => trivial)
  intro unixSeconds _
  apply Codec.checked Timestamp.nanosecond codec_u32 (fun _ _ => trivial)
  intro nanosecond _ timestamp
  rw [mapError_ok, Timestamp.new_ok, true_and]

theorem codec_timeInterval : Codec (fun _ => True) encodeTimeInterval decodeTimeInterval := by
  apply Codec.field TimeInterval.start codec_timestamp (fun _ _ => trivial)
  intro start _
  apply Codec.checked TimeInterval.stop codec_timestamp (fun _ _ => trivial)
  intro stop _ interval
  rw [mapError_ok, TimeInterval.new_ok, true_and]

theorem codec_optionalTimestamp :
    Codec (fun _ => True) encodeOptionalTimestamp decodeOptionalTimestamp :=
  codec_optional codec_timestamp

theorem codec_optionalInterval :
    Codec (fun _ => True) encodeOptionalInterval decodeOptionalInterval :=
  codec_optional codec_timeInterval

theorem codec_optionalPosition :
    Codec (fun _ => True) encodeOptionalPosition decodeOptionalPosition := by
  apply codec_optional
  apply Codec.field ProducerPosition.epoch codec_u128 (fun _ _ => trivial)
  intro epoch _
  apply Codec.map ProducerPosition.sequence codec_u128 (fun _ _ => trivial)
  rintro sequence _ ⟨_, _⟩
  simp

theorem ContentIdentity.ofDigest_ok {format : ContentFormat} {version : U128} {sha256 : Bytes}
    {content : ContentIdentity} :
    ContentIdentity.ofDigest format version sha256 = .ok content ↔
      (format = content.format ∧ version = content.version) ∧ sha256 = content.sha256 := by
  unfold ContentIdentity.ofDigest
  rw [dite_ok]
  constructor
  · rintro ⟨h, rfl⟩
    exact ⟨⟨rfl, rfl⟩, rfl⟩
  · rintro ⟨⟨rfl, rfl⟩, rfl⟩
    exact ⟨content.sha256_length, rfl⟩

theorem codec_content : Codec (fun _ => True) encodeContent decodeContent := by
  apply Codec.field ContentIdentity.format codec_contentFormat (fun _ _ => trivial)
  intro format _
  apply Codec.field ContentIdentity.version codec_u128 (fun _ _ => trivial)
  intro version _
  apply Codec.checked ContentIdentity.sha256 (codec_take JournalV1Error.truncated 32)
  · intro content _
    exact content.sha256_length
  · intro sha256 _ content
    rw [ContentIdentity.ofDigest_ok, true_and]

theorem codec_artifact : Codec (fun _ => True) encodeArtifact decodeArtifact := by
  apply Codec.field ArtifactReference.artifactId codec_identity (fun _ _ => trivial)
  intro artifactId _
  apply Codec.map ArtifactReference.content codec_content (fun _ _ => trivial)
  rintro content _ ⟨_, _⟩
  simp

theorem codec_optionalArtifact :
    Codec (fun _ => True) encodeOptionalArtifact decodeOptionalArtifact :=
  codec_optional codec_artifact

theorem codec_optionalIdempotency :
    Codec (fun _ => True) encodeOptionalIdempotency decodeOptionalIdempotency := by
  apply codec_optional
  apply Codec.field SourceIdempotency.key codec_retryKey (fun _ _ => trivial)
  intro key _
  apply Codec.map SourceIdempotency.content codec_content (fun _ _ => trivial)
  rintro content _ ⟨_, _⟩
  simp

end Historian
