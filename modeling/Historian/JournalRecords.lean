import Historian.JournalFields

namespace Historian

open Wire Checks

theorem codec_variant {α : Type} {tag : α → UInt8} {body enc : α → Enc Unit}
    {dec : UInt8 → Cursor α}
    (he : ∀ x, enc x = do encodeU8 (tag x); body x)
    (h : ∀ a, Codec (fun x => a = tag x) body (dec a)) :
    Codec (fun _ => True) enc (do let a ← Cursor.u8; dec a) := by
  have step : Codec (fun _ => True) (fun x => do encodeU8 (tag x); body x)
      (do let a ← Cursor.u8; dec a) := by
    apply Codec.field tag codec_u8 (fun _ _ => trivial)
    intro a _
    exact (h a).congr (fun _ => by simp) (fun _ _ => rfl)
  exact step.congr (fun _ => Iff.rfl) (fun x _ => he x)

def QuantityEvidence.tag : QuantityEvidence → UInt8
  | .absent => 0 | .resolved _ => 1 | .unresolved _ => 2

def QuantityEvidence.encodeBody : QuantityEvidence → Enc Unit
  | .absent => pure ()
  | .resolved reference | .unresolved reference => encodeReference reference

theorem codec_quantity : Codec (fun _ => True) encodeQuantity decodeQuantity := by
  have he : ∀ x, encodeQuantity x = (do encodeU8 x.tag; x.encodeBody) := by
    rintro (_ | _ | _) <;> rfl
  apply codec_variant he
  intro a
  split
  next =>
    refine (Codec.pure (y := QuantityEvidence.absent) ?_).congr (fun _ => Iff.rfl) ?_
    · rintro (_ | _ | _) <;> simp [QuantityEvidence.tag]
    · rintro (_ | _ | _) <;> simp [QuantityEvidence.tag, QuantityEvidence.encodeBody]
  next =>
    apply Codec.inject QuantityEvidence.resolved codec_declarationReference _ (fun _ => rfl)
    rintro (_ | _ | _) <;> simp [QuantityEvidence.tag]
  next =>
    apply Codec.inject QuantityEvidence.unresolved codec_declarationReference _ (fun _ => rfl)
    rintro (_ | _ | _) <;> simp [QuantityEvidence.tag]
  next h0 h1 h2 =>
    apply Codec.refused
    rintro (_ | _ | _) <;> simpa [QuantityEvidence.tag]

def UnitEvidence.tag : UnitEvidence → UInt8
  | .absent => 0 | .resolved _ => 1 | .unresolved _ => 2

def UnitEvidence.encodeBody : UnitEvidence → Enc Unit
  | .absent => pure ()
  | .resolved reference | .unresolved reference => encodeReference reference

theorem codec_unit : Codec (fun _ => True) encodeUnit decodeUnit := by
  have he : ∀ x, encodeUnit x = (do encodeU8 x.tag; x.encodeBody) := by
    rintro (_ | _ | _) <;> rfl
  apply codec_variant he
  intro a
  split
  next =>
    refine (Codec.pure (y := UnitEvidence.absent) ?_).congr (fun _ => Iff.rfl) ?_
    · rintro (_ | _ | _) <;> simp [UnitEvidence.tag]
    · rintro (_ | _ | _) <;> simp [UnitEvidence.tag, UnitEvidence.encodeBody]
  next =>
    apply Codec.inject UnitEvidence.resolved codec_declarationReference _ (fun _ => rfl)
    rintro (_ | _ | _) <;> simp [UnitEvidence.tag]
  next =>
    apply Codec.inject UnitEvidence.unresolved codec_declarationReference _ (fun _ => rfl)
    rintro (_ | _ | _) <;> simp [UnitEvidence.tag]
  next h0 h1 h2 =>
    apply Codec.refused
    rintro (_ | _ | _) <;> simpa [UnitEvidence.tag]

theorem codec_revision :
    Codec (fun _ => True) (fun x : DeclarationRevision => encodeU128 x.value) decodeRevision := by
  apply Codec.checked DeclarationRevision.value codec_u128 (fun _ _ => trivial)
  intro value _ revision
  rw [mapError_ok, DeclarationRevision.new_ok, true_and]

theorem codec_sourceReference :
    Codec (fun _ => True) encodeSourceReference decodeSourceReference := by
  apply Codec.field SourceReference.provider codec_declarationReference (fun _ _ => trivial)
  intro provider _
  apply Codec.field SourceReference.projection (codec_optional codec_sourceProjection)
    (fun _ _ => trivial)
  intro projection _
  apply Codec.map SourceReference.locator codec_declarationReference (fun _ _ => trivial)
  rintro locator _ ⟨_, _, _⟩
  simp [and_assoc]

theorem codec_binding : Codec (fun _ => True) encodeBinding decodeBinding := by
  apply Codec.map SeriesBinding.source codec_sourceReference (fun _ _ => trivial)
  rintro source _ ⟨_⟩
  simp

theorem codec_declarationPayload :
    Codec (fun _ => True) encodeDeclarationPayload decodeDeclarationPayload := by
  apply Codec.field SeriesDeclarationPayload.producerId codec_identity (fun _ _ => trivial)
  intro producerId _
  apply Codec.field SeriesDeclarationPayload.collectionMode codec_collectionMode
    (fun _ _ => trivial)
  intro collectionMode _
  apply Codec.field SeriesDeclarationPayload.valueFamily codec_valueFamily (fun _ _ => trivial)
  intro valueFamily _
  apply Codec.field SeriesDeclarationPayload.quantity codec_quantity (fun _ _ => trivial)
  intro quantity _
  apply Codec.field SeriesDeclarationPayload.unit codec_unit (fun _ _ => trivial)
  intro unit _
  apply Codec.map SeriesDeclarationPayload.application
    (codec_optional codec_declarationReference) (fun _ _ => trivial)
  rintro application _ ⟨_, _, _, _, _, _⟩
  simp [and_assoc]

theorem codec_declarationEvidence :
    Codec (fun _ => True) encodeDeclarationEvidence decodeDeclarationEvidence := by
  apply Codec.field DeclarationEvidence.effectiveAt codec_timestamp (fun _ _ => trivial)
  intro effectiveAt _
  apply Codec.map DeclarationEvidence.artifact codec_optionalArtifact (fun _ _ => trivial)
  rintro artifact _ ⟨_, _⟩
  simp

theorem codec_declaration :
    Codec (fun _ => True) encodeDecodedDeclaration decodeDeclaration := by
  apply Codec.field DecodedDeclarationV1.storeId codec_identity (fun _ _ => trivial)
  intro storeId _
  apply Codec.field DecodedDeclarationV1.seriesId codec_identity (fun _ _ => trivial)
  intro seriesId _
  apply Codec.field DecodedDeclarationV1.revision codec_revision (fun _ _ => trivial)
  intro revision _
  apply Codec.field DecodedDeclarationV1.previousRevision (codec_optional codec_revision)
    (fun _ _ => trivial)
  intro previousRevision _
  apply Codec.field DecodedDeclarationV1.binding codec_binding (fun _ _ => trivial)
  intro binding _
  apply Codec.field DecodedDeclarationV1.payload codec_declarationPayload (fun _ _ => trivial)
  intro payload _
  apply Codec.map DecodedDeclarationV1.evidence codec_declarationEvidence (fun _ _ => trivial)
  rintro evidence _ ⟨_, _, _, _, _, _, _⟩
  simp [and_assoc]

theorem codec_seriesMetadata : Codec (fun _ => True) encodeSeriesMetadata decodeSeriesMetadata := by
  apply Codec.field SeriesMetadata.seriesId codec_identity (fun _ _ => trivial)
  intro seriesId _
  apply Codec.field SeriesMetadata.producerId codec_identity (fun _ _ => trivial)
  intro producerId _
  apply Codec.map SeriesMetadata.collectionMode codec_collectionMode (fun _ _ => trivial)
  rintro collectionMode _ ⟨_, _, _⟩
  simp [and_assoc]

theorem codec_retry : Codec (fun _ => True) encodeRetry decodeRetry := by
  apply Codec.field RetryQualification.seriesId codec_identity (fun _ _ => trivial)
  intro seriesId _
  apply Codec.field RetryQualification.producerId codec_identity (fun _ _ => trivial)
  intro producerId _
  apply Codec.field RetryQualification.key codec_retryKey (fun _ _ => trivial)
  intro key _
  apply Codec.map RetryQualification.content codec_content (fun _ _ => trivial)
  rintro content _ ⟨_, _, _, _⟩
  simp [and_assoc]

theorem codec_batch : Codec (fun _ => True) encodeBatch decodeBatch := by
  have version : Codec (fun _ => True) (fun x : SourceSchemaVersion => encodeU128 x.value)
      decodeSchemaVersion := by
    apply Codec.checked SourceSchemaVersion.value codec_u128 (fun _ _ => trivial)
    intro value _ version
    rw [mapError_ok, SourceSchemaVersion.new_ok, true_and]
  apply Codec.field SourceBatchMetadata.schema codec_declarationReference (fun _ _ => trivial)
  intro schema _
  apply Codec.field SourceBatchMetadata.version version (fun _ _ => trivial)
  intro version _
  apply Codec.map SourceBatchMetadata.interval codec_sourceIntervalKind (fun _ _ => trivial)
  rintro interval _ ⟨_, _, _⟩
  simp [and_assoc]

end Historian
