import Historian.RootOpen

namespace Historian

open Wire Checks

/-- What a report says about its manifest and about the suffix that it removes. -/
structure RecoveryReport.Consistent (report : RecoveryReport) : Prop where
  generation : report.reportGeneration ≠ 0
  source : report.sourceManifestGeneration ≠ 0
  committing : report.committingManifestGeneration.val = report.sourceManifestGeneration.val + 1
  active : report.activeGeneration ≠ 0
  checkpoint : report.checkpointGeneration ≠ 0
  floor : report.sequenceFloor ≤ report.appendSequence
  header : report.appendSequence = report.sequenceFloor ↔
    report.committedEndOffset.val = journalV1HeaderLen
  behind : journalV1HeaderLen ≤ report.committedEndOffset.val
  removed : report.removedBytes.val =
    report.originalJournalLength.val - report.committedEndOffset.val
  removes : 0 < report.removedBytes.val
  bounded : report.originalJournalLength.val ≤ maxActiveJournalBytes

theorem validateReport_ok {report : RecoveryReport} :
    validateReport report = .ok () ↔ report.Consistent := by
  unfold validateReport
  rw [refuse_ok]
  simp only [not_or, not_not, not_lt, not_le]
  constructor
  · intro h
    obtain ⟨hgeneration, hsource, hcommitting, hactive, hcheckpoint, hfloor, hheader, hbehind,
      hsuffix, hbounded, hremoved, hremoves, -⟩ := h
    have hlt : report.committedEndOffset.val < report.originalJournalLength.val := hsuffix
    exact ⟨hgeneration, hsource, hcommitting.symm, hactive, hcheckpoint, hfloor, hheader, hbehind,
      hremoved.symm, by omega, hbounded⟩
  · intro h
    have hremoved := h.removed
    have hremoves := h.removes
    have hsuffix : report.committedEndOffset < report.originalJournalLength :=
      show report.committedEndOffset.val < report.originalJournalLength.val by omega
    have hpositive : report.removedBytes ≠ 0 := by
      intro hzero
      rw [hzero] at hremoves
      exact Nat.lt_irrefl 0 hremoves
    exact ⟨h.generation, h.source, h.committing.symm, h.active, h.checkpoint, h.floor, h.header,
      h.behind, hsuffix, h.bounded, hremoved.symm, hpositive, trivial⟩

theorem RecoveryReport.new_ok {storeId : StoreId} {generation source : U64} {checksum : U32}
    {cutoff : DurableCutoff} {floor originalLength : U64}
    {classification : RecoveryClassification} {report : RecoveryReport}
    (h : RecoveryReport.new storeId generation source checksum cutoff floor originalLength
      classification = .ok report) :
    validateReport report = .ok () ∧ report.storeId = storeId ∧
      report.sourceManifestGeneration = source ∧ report.sourceManifestChecksum = checksum ∧
      report.sequenceFloor = floor ∧
      report.cutoff = ⟨⟨storeId, cutoff.journal.generation⟩, cutoff.checkpointGeneration,
        cutoff.appendSequence, cutoff.endOffset⟩ := by
  unfold RecoveryReport.new at h
  split at h
  next => cases h
  next =>
    simp only [bind_ok, exists_unit, pure_ok] at h
    obtain ⟨-, hvalid, rfl⟩ := h
    exact ⟨hvalid, rfl, rfl, rfl, rfl, rfl⟩

theorem decode_of_valid {report : RecoveryReport} (h : validateReport report = .ok ()) :
    ∃ bytes, encodeRecoveryState report = .ok bytes ∧ bytes.length = recoveryStateLen ∧
      decodeRecoveryState bytes report.storeId = .ok report := by
  have hencode := encodeRecoveryState_ok.mpr ⟨h, rfl⟩
  refine ⟨_, hencode, ?_, decodeRecoveryState_ok.mpr ⟨rfl, hencode⟩⟩
  rw [length_withChecksum, length_recoveryBody]
  rfl

/-- A report made from the fields of a manifest matches it. -/
theorem reportMatchesSource_of_new {source : ManifestRecord} {generation originalLength : U64}
    {classification : RecoveryClassification} {report : RecoveryReport}
    (h : RecoveryReport.new source.cutoff.journal.storeId generation source.generation
      (manifestChecksum source) source.cutoff source.sequenceFloor originalLength
      classification = .ok report) :
    ∃ next, checkedNext source.generation = .ok next ∧
      reportMatchesSource report source next = true := by
  obtain ⟨hvalid, -, hsource, hchecksum, hfloor, hcutoff⟩ := RecoveryReport.new_ok h
  have hcommitting := (validateReport_ok.mp hvalid).committing
  rw [hsource] at hcommitting
  refine ⟨report.committingManifestGeneration, checkedNext_ok.mpr hcommitting.symm, ?_⟩
  unfold reportMatchesSource
  rw [decide_eq_true_eq]
  exact ⟨hsource, rfl, hchecksum, hcutoff, hfloor⟩

namespace ManifestStore

variable {store : ManifestStore} {inventory : RecoveryInventoryState}
  {plan : Option ActiveRecoveryPlan}

/-- A report that recovery writes is made from the current manifest. -/
theorem selectRecovery_report {artifact : RecoveryArtifact} {bytes : Bytes}
    (h : store.selectRecovery inventory plan = .ok (some (artifact, .report bytes))) :
    encodeRecoveryState artifact.report = .ok bytes ∧
      ∃ generation originalLength classification,
        RecoveryReport.new store.storeId generation store.current.generation
          (manifestChecksum store.current) store.current.cutoff store.current.sequenceFloor
          originalLength classification = .ok artifact.report := by
  unfold selectRecovery at h
  simp only [bind_ok, exists_unit] at h
  obtain ⟨targetSlot, -, -, -, expected, -, h⟩ := h
  split at h
  next =>
    simp only [bind_ok, exists_unit, pure_ok, Option.some.injEq, Prod.mk.injEq] at h
    obtain ⟨_, -, -, -, hsource⟩ := h
    cases hsource
  next =>
    simp only [bind_ok, exists_unit, pure_ok, Option.some.injEq, Prod.mk.injEq] at h
    obtain ⟨-, -, hsource⟩ := h
    cases hsource
  next =>
    simp only [bind_ok, exists_unit] at h
    obtain ⟨-, h⟩ := h
    split at h
    next => simp [pure_ok] at h
    next plan =>
      simp only [bind_ok, mapError_ok, pure_ok, Option.some.injEq, Prod.mk.injEq] at h
      obtain ⟨report, hreport, made, hmade, rfl, hsource⟩ := h
      cases hsource
      exact ⟨hmade, expected, plan.originalLength, plan.classification, hreport⟩

end ManifestStore

/-- Every report that can be made is encoded into 128 bytes that decode to it; every accepted
128 bytes are the encoding of a consistent report; and the bytes that recovery writes decode to a
report of the manifest that they were made from. -/
theorem recovery_report_codec :
    (∀ (storeId : StoreId) (generation source : U64) (checksum : U32) (cutoff : DurableCutoff)
      (floor originalLength : U64) (classification : RecoveryClassification)
      (report : RecoveryReport),
      RecoveryReport.new storeId generation source checksum cutoff floor originalLength
        classification = .ok report →
      ∃ bytes, encodeRecoveryState report = .ok bytes ∧ bytes.length = recoveryStateLen ∧
        decodeRecoveryState bytes storeId = .ok report) ∧
    (∀ (bytes : Bytes) (storeId : StoreId) (report : RecoveryReport),
      decodeRecoveryState bytes storeId = .ok report →
      bytes.length = recoveryStateLen ∧ encodeRecoveryState report = .ok bytes ∧
        report.storeId = storeId ∧ report.Consistent) ∧
    ∀ (store : ManifestStore) (inventory : RecoveryInventoryState)
      (plan : Option ActiveRecoveryPlan) (artifact : RecoveryArtifact) (bytes : Bytes),
      store.selectRecovery inventory plan = .ok (some (artifact, .report bytes)) →
      ∃ next report, checkedNext store.current.generation = .ok next ∧
        decodeRecoveryState bytes store.storeId = .ok report ∧ report = artifact.report ∧
        reportMatchesSource report store.current next = true := by
  refine ⟨?_, ?_, ?_⟩
  · intro storeId generation source checksum cutoff floor originalLength classification report h
    obtain ⟨hvalid, hstore, -⟩ := RecoveryReport.new_ok h
    obtain ⟨bytes, hencode, hlen, hdecode⟩ := decode_of_valid hvalid
    rw [hstore] at hdecode
    exact ⟨bytes, hencode, hlen, hdecode⟩
  · intro bytes storeId report h
    obtain ⟨hstore, hencode⟩ := decodeRecoveryState_ok.mp h
    obtain ⟨hvalid, rfl⟩ := encodeRecoveryState_ok.mp hencode
    refine ⟨?_, hencode, hstore, validateReport_ok.mp hvalid⟩
    rw [length_withChecksum, length_recoveryBody]
    rfl
  · intro store inventory plan artifact bytes h
    obtain ⟨hencode, generation, originalLength, classification, hnew⟩ :=
      ManifestStore.selectRecovery_report h
    obtain ⟨next, hnext, hmatches⟩ := reportMatchesSource_of_new hnew
    have hstore := (RecoveryReport.new_ok hnew).2.1
    exact ⟨next, artifact.report, hnext, decodeRecoveryState_ok.mpr ⟨hstore, hencode⟩, rfl,
      hmatches⟩

/-- One byte behind the header of an empty journal is cut off. -/
theorem recovery_report_codec_sample :
    ∃ report bytes, RecoveryReport.new (sampleIdentity 1) 1 1 0
        ⟨⟨sampleIdentity 1, 1⟩, 1, 0, 28⟩ 0 29 .shortFramePrefix = .ok report ∧
      report.removedBytes = 1 ∧ encodeRecoveryState report = .ok bytes ∧
      decodeRecoveryState bytes (sampleIdentity 1) = .ok report := by
  have hnew : ∃ report, RecoveryReport.new (sampleIdentity 1) 1 1 0
      ⟨⟨sampleIdentity 1, 1⟩, 1, 0, 28⟩ 0 29 .shortFramePrefix = .ok report ∧
        report.removedBytes = 1 := ⟨_, rfl, rfl⟩
  obtain ⟨report, hreport, hremoved⟩ := hnew
  obtain ⟨bytes, hencode, -, hdecode⟩ :=
    recovery_report_codec.1 _ _ _ _ _ _ _ _ report hreport
  exact ⟨report, bytes, hreport, hremoved, hencode, hdecode⟩

end Historian
