import Historian.ManifestRecord

namespace Historian

open Wire Checks

def recoveryStateMagic : Bytes := [0x4f, 0x43, 0x48, 0x52, 0x43, 0x56, 0x30, 0x31]
def recoveryStateVersion : Nat := 1
def recoveryStateLen : Nat := 128
def maxActiveJournalBytes : Nat := 512 * 1024 * 1024

/-- Why the bytes behind the committed cutoff were no frame. -/
inductive RecoveryClassification where
  | shortFramePrefix | invalidFramePrefix | truncatedDeclaredFrame | invalidCompleteFrame
  deriving DecidableEq, Repr

def RecoveryClassification.tag : RecoveryClassification → UInt8
  | .shortFramePrefix => 1
  | .invalidFramePrefix => 2
  | .truncatedDeclaredFrame => 3
  | .invalidCompleteFrame => 4

def RecoveryClassification.fromTag : UInt8 → Option RecoveryClassification
  | 1 => some .shortFramePrefix
  | 2 => some .invalidFramePrefix
  | 3 => some .truncatedDeclaredFrame
  | 4 => some .invalidCompleteFrame
  | _ => none

inductive RecoveryAction where
  | truncateToCommittedRoot
  deriving DecidableEq, Repr

def RecoveryAction.tag : RecoveryAction → UInt8
  | .truncateToCommittedRoot => 1

def RecoveryAction.fromTag : UInt8 → Option RecoveryAction
  | 1 => some .truncateToCommittedRoot
  | _ => none

structure RecoveryReport where
  storeId : StoreId
  reportGeneration : U64
  sourceManifestGeneration : U64
  committingManifestGeneration : U64
  sourceManifestChecksum : U32
  activeGeneration : U64
  sequenceFloor : U64
  checkpointGeneration : U64
  appendSequence : U64
  committedEndOffset : U64
  originalJournalLength : U64
  removedBytes : U64
  classification : RecoveryClassification
  action : RecoveryAction
  deriving DecidableEq

structure RecoveryArtifact where
  reference : RecoveryReference
  report : RecoveryReport
  deriving DecidableEq

inductive RecoveryCodecError where
  | invalid | storeMismatch
  deriving DecidableEq, Repr

def RecoveryReport.cutoff (report : RecoveryReport) : DurableCutoff :=
  ⟨⟨report.storeId, report.activeGeneration⟩, report.checkpointGeneration,
    report.appendSequence, report.committedEndOffset⟩

def validateReport (report : RecoveryReport) : Except RecoveryCodecError Unit :=
  refuse (report.reportGeneration = 0 ∨ report.sourceManifestGeneration = 0 ∨
    report.sourceManifestGeneration.val + 1 ≠ report.committingManifestGeneration.val ∨
    report.activeGeneration = 0 ∨ report.checkpointGeneration = 0 ∨
    report.appendSequence < report.sequenceFloor ∨
    ¬(report.appendSequence = report.sequenceFloor ↔
      report.committedEndOffset.val = journalV1HeaderLen) ∨
    report.committedEndOffset.val < journalV1HeaderLen ∨
    report.originalJournalLength ≤ report.committedEndOffset ∨
    maxActiveJournalBytes < report.originalJournalLength.val ∨
    report.originalJournalLength.val - report.committedEndOffset.val ≠ report.removedBytes.val ∨
    report.removedBytes = 0 ∨ report.action ≠ .truncateToCommittedRoot) .invalid

def RecoveryReport.new (storeId : StoreId) (reportGeneration sourceManifestGeneration : U64)
    (sourceManifestChecksum : U32) (cutoff : DurableCutoff)
    (sequenceFloor originalJournalLength : U64) (classification : RecoveryClassification) :
    Except RecoveryCodecError RecoveryReport :=
  match checkedAdd sourceManifestGeneration 1 with
  | none => .error .invalid
  | some committingManifestGeneration => do
    refuse (originalJournalLength ≤ cutoff.endOffset) .invalid
    let report : RecoveryReport := ⟨storeId, reportGeneration, sourceManifestGeneration,
      committingManifestGeneration, sourceManifestChecksum, cutoff.journal.generation,
      sequenceFloor, cutoff.checkpointGeneration, cutoff.appendSequence, cutoff.endOffset,
      originalJournalLength, originalJournalLength - cutoff.endOffset, classification,
      .truncateToCommittedRoot⟩
    validateReport report
    pure report

/-- The fields of the first 124 bytes, in order of their offsets. -/
def recoveryFields (report : RecoveryReport) : List Bytes :=
  [recoveryStateMagic, toBE 2 recoveryStateVersion, toBE 2 recoveryStateLen, report.storeId.bytes,
    toBE 8 report.reportGeneration, toBE 8 report.sourceManifestGeneration,
    toBE 8 report.committingManifestGeneration, toBE 4 report.sourceManifestChecksum,
    toBE 8 report.activeGeneration, toBE 8 report.sequenceFloor,
    toBE 8 report.checkpointGeneration, toBE 8 report.appendSequence,
    toBE 8 report.committedEndOffset, toBE 8 report.originalJournalLength,
    toBE 8 report.removedBytes, [report.classification.tag], [report.action.tag], zeros 10]

def recoveryBody (report : RecoveryReport) : Bytes := (recoveryFields report).flatten

def encodeRecoveryState (report : RecoveryReport) : Except RecoveryCodecError Bytes := do
  validateReport report
  pure (withChecksum (recoveryBody report))

def decodeRecoveryState (bytes : Bytes) (expectedStore : StoreId) :
    Except RecoveryCodecError RecoveryReport := do
  refuse (bytes.length ≠ recoveryStateLen ∨ slice bytes 0 8 ≠ recoveryStateMagic ∨
    u16At bytes 8 ≠ recoveryStateVersion ∨ u16At bytes 10 ≠ recoveryStateLen ∨
    slice bytes 114 10 ≠ zeros 10 ∨ crc32c (slice bytes 0 124) ≠ u32At bytes 124) .invalid
  let storeId ←
    (Identity.fromBytes (slice bytes 12 16)).mapError fun _ => RecoveryCodecError.invalid
  refuse (storeId ≠ expectedStore) .storeMismatch
  match RecoveryClassification.fromTag (byteAt bytes 112),
    RecoveryAction.fromTag (byteAt bytes 113) with
  | some classification, some action => do
    let report : RecoveryReport := ⟨storeId, u64At bytes 28, u64At bytes 36, u64At bytes 44,
      u32At bytes 52, u64At bytes 56, u64At bytes 64, u64At bytes 72, u64At bytes 80,
      u64At bytes 88, u64At bytes 96, u64At bytes 104, classification, action⟩
    validateReport report
    let canonical ← encodeRecoveryState report
    refuse (canonical ≠ bytes) .invalid
    pure report
  | _, _ => .error .invalid

def recoveryLayout : List Nat := [8, 2, 2, 16, 8, 8, 8, 4, 8, 8, 8, 8, 8, 8, 8, 1, 1, 10]

theorem recoveryFields_lengths (report : RecoveryReport) :
    (recoveryFields report).map List.length = recoveryLayout := by
  have hstore := report.storeId.length_eq
  simp [recoveryFields, recoveryLayout, recoveryStateMagic, hstore]

theorem length_recoveryBody (report : RecoveryReport) : (recoveryBody report).length = 124 := by
  rw [recoveryBody, List.length_flatten, recoveryFields_lengths]
  rfl

theorem encodeRecoveryState_ok {report : RecoveryReport} {bytes : Bytes} :
    encodeRecoveryState report = .ok bytes ↔
      validateReport report = .ok () ∧ bytes = withChecksum (recoveryBody report) := by
  unfold encodeRecoveryState
  rw [then_ok, pure_ok]
  exact and_congr_right fun _ => eq_comm

theorem RecoveryClassification.fromTag_tag (classification : RecoveryClassification) :
    RecoveryClassification.fromTag classification.tag = some classification := by
  cases classification <;> rfl

theorem RecoveryAction.fromTag_tag (action : RecoveryAction) :
    RecoveryAction.fromTag action.tag = some action := by
  cases action
  rfl

/-- A recovery file is accepted exactly when it is the encoding of a valid report of the store. -/
theorem decodeRecoveryState_ok {bytes : Bytes} {storeId : StoreId} {report : RecoveryReport} :
    decodeRecoveryState bytes storeId = .ok report ↔
      report.storeId = storeId ∧ encodeRecoveryState report = .ok bytes := by
  constructor
  · intro h
    unfold decodeRecoveryState at h
    simp only [bind_ok, exists_unit, refuse_ok, mapError_ok, not_not] at h
    obtain ⟨-, store, -, hstore, h⟩ := h
    split at h
    next =>
      simp only [bind_ok, exists_unit, refuse_ok, pure_ok, not_not] at h
      obtain ⟨-, canonical, hcanonical, rfl, rfl⟩ := h
      exact ⟨hstore, hcanonical⟩
    next => cases h
  · intro h
    obtain ⟨rfl, hencode⟩ := h
    obtain ⟨hvalid, rfl⟩ := encodeRecoveryState_ok.mp hencode
    have hlen : (withChecksum (recoveryBody report)).length = recoveryStateLen := by
      rw [length_withChecksum, length_recoveryBody]
      rfl
    have hcut : cut (recoveryBody report) 0 recoveryLayout = recoveryFields report := by
      rw [← recoveryFields_lengths report]
      exact cut_flatten _
    simp only [cut, recoveryLayout, Nat.reduceAdd, recoveryFields, List.cons.injEq,
      and_true] at hcut
    obtain ⟨hmagic, hversion, hlength, hstore, hgeneration, hsource, hcommitting, hsum, hactive,
      hfloor, hcheckpoint, hsequence, hend, horiginal, hremoved, hclass, haction, hzeros⟩ := hcut
    have hread : ∀ start len field, start + len ≤ 124 →
        slice (recoveryBody report) start len = field →
        slice (withChecksum (recoveryBody report)) start len = field := by
      intro start len field hle hfield
      rw [slice_withChecksum (by rw [length_recoveryBody]; exact hle), hfield]
    unfold decodeRecoveryState
    simp only [bind_ok, exists_unit, refuse_ok, mapError_ok, not_not, not_or,
      Identity.fromBytes_ok]
    refine ⟨⟨hlen, hread 0 8 _ (by omega) hmagic,
      u16At_of_slice (by decide) (hread 8 2 _ (by omega) hversion),
      u16At_of_slice (by decide) (hread 10 2 _ (by omega) hlength),
      hread 114 10 _ (by omega) hzeros, withChecksum_agrees (length_recoveryBody report)⟩,
      report.storeId, hread 12 16 _ (by omega) hstore, rfl, ?_⟩
    rw [byteAt_of_slice (hread 112 1 _ (by omega) hclass),
      byteAt_of_slice (hread 113 1 _ (by omega) haction),
      RecoveryClassification.fromTag_tag, RecoveryAction.fromTag_tag,
      u64At_of_slice (hread 28 8 _ (by omega) hgeneration),
      u64At_of_slice (hread 36 8 _ (by omega) hsource),
      u64At_of_slice (hread 44 8 _ (by omega) hcommitting),
      u32At_of_slice (hread 52 4 _ (by omega) hsum),
      u64At_of_slice (hread 56 8 _ (by omega) hactive),
      u64At_of_slice (hread 64 8 _ (by omega) hfloor),
      u64At_of_slice (hread 72 8 _ (by omega) hcheckpoint),
      u64At_of_slice (hread 80 8 _ (by omega) hsequence),
      u64At_of_slice (hread 88 8 _ (by omega) hend),
      u64At_of_slice (hread 96 8 _ (by omega) horiginal),
      u64At_of_slice (hread 104 8 _ (by omega) hremoved)]
    simp only [bind_ok, exists_unit, refuse_ok, pure_ok, not_not]
    exact ⟨hvalid, _, hencode, rfl, trivial⟩

end Historian
