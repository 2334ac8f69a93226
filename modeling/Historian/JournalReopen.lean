import Historian.TornSuffix

namespace Historian

open Wire Checks Files

/-- The bytes that are left of a frame whose write was cut off. -/
def CutOff (limits : DecodeLimitsV1) (suffix : Bytes) : Prop :=
  ∃ frame previous decoded, decodeAdmissionFrameV1 frame limits previous = .ok decoded ∧
    suffix <+: frame ∧ suffix ≠ frame

/-- The end of the last record, or that of the header. -/
def boundaryOffset (records : List RecoveredAdmissionV1) : Nat :=
  match records.getLast? with
  | some record => record.endOffset.val
  | none => journalV1HeaderLen

/-- A checkpoint that names the end of one of the frames of a journal, or that of its header. -/
def CheckpointState.AtBoundary (sequenceFloor : U64) (records : List RecoveredAdmissionV1)
    (checkpoint : CheckpointState) : Prop :=
  ∃ durable behind, records = durable ++ behind ∧
    checkpoint.appendSequence = lastSequence sequenceFloor durable ∧
    checkpoint.endOffset.val = boundaryOffset durable

/-- The offset that a file is cut off at. -/
def cutAt (suffix : Bytes) (offset : U64) : Option U64 := if suffix = [] then none else some offset

section Scan

variable {identity : JournalIdentity} {limits : ActiveJournalLimits}
  {checkpoint : CheckpointState} {suffix : Bytes}

/-- The round of the scan that stands behind the last whole frame. -/
theorem scanFrames_cutOff {start : U64} {previous : Option AppendSequenceV1} {count fuel : Nat}
    (hsuffix : suffix = [] ∨ CutOff limits.decode suffix)
    (hcheckpoint : checkpoint.endOffset ≤ start) (hcount : count < limits.recordLimit)
    (hbound : start.val ≤ maxActiveJournalBytes) (hfuel : suffix.length ≤ fuel) :
    scanFrames identity limits checkpoint fuel count start previous suffix =
      .ok ⟨[], start, cutAt suffix start, none⟩ := by
  by_cases hempty : suffix = []
  · subst hempty
    cases fuel with
    | zero => rfl
    | succ fuel => rfl
  · obtain ⟨frame, before, decoded, hdecode, hfront, hproper⟩ := hsuffix.resolve_left hempty
    have hpositive : 0 < suffix.length := List.length_pos_iff.mpr hempty
    obtain ⟨fuel, rfl⟩ : ∃ n, fuel = n + 1 := ⟨fuel - 1, by omega⟩
    have hcut : cutAt suffix start = some start := if_neg hempty
    have hbehind : ¬start < checkpoint.endOffset := Fin.not_lt.mpr hcheckpoint
    have hshorter : suffix.length < frame.length := by
      rcases Nat.lt_or_ge suffix.length frame.length with hlt | hge
      · exact hlt
      · exact absurd (hfront.eq_of_length_le hge) hproper
    unfold scanFrames
    rw [if_neg hempty, hcut, then_ok, refuse_ok]
    refine ⟨Nat.not_le.mpr hcount, ?_⟩
    by_cases hshort : suffix.length < journalV1FramePrefixLen
    · rw [if_pos hshort, then_ok, refuse_ok]
      exact ⟨hbehind, rfl⟩
    · -- the prefix is whole, so it announces the length of the frame that was cut off
      obtain ⟨rest, hrest⟩ := hfront
      have hprefix : slice suffix 0 journalV1FramePrefixLen =
          slice (frame ++ []) 0 journalV1FramePrefixLen := by
        rw [← hrest, List.append_nil, slice_left (by omega)]
      have hlong := length_le_of_decode hdecode
      have hadd : checkedAdd start frame.length =
          some ⟨start.val + frame.length, by
            simp only [maxActiveJournalBytes, maxAdmissionPayloadV1, journalV1FramePrefixLen,
              journalV1FrameCrcLen] at hbound hlong
            omega⟩ := checkedAdd_eq_some.mpr rfl
      rw [if_neg hshort, hprefix, frameLen_of_decode hdecode]
      dsimp only
      rw [hadd]
      dsimp only
      rw [if_pos hshorter, then_ok, refuse_ok]
      exact ⟨hbehind, rfl⟩

/-- The scan of a journal that ends with whole frames and what is left of one more. -/
theorem scanFrames_reopen {previous : Option AppendSequenceV1} {offset : Nat}
    {records : List RecoveredAdmissionV1} {body : Bytes}
    (h : Frames identity.storeId limits.decode previous offset records body)
    (hsuffix : suffix = [] ∨ CutOff limits.decode suffix) {start last : U64} {count fuel : Nat}
    (hstart : start.val = offset) (hlast : last.val = offset + body.length)
    (hcheckpoint : checkpoint.endOffset ≤ start ∨
      ∃ record ∈ records, record.endOffset = checkpoint.endOffset)
    (hcount : count + records.length < limits.recordLimit)
    (hbound : last.val ≤ maxActiveJournalBytes) (hfuel : records.length + suffix.length ≤ fuel) :
    scanFrames identity limits checkpoint fuel count start previous (body ++ suffix) =
      .ok ⟨records, last, cutAt suffix last, none⟩ := by
  induction h generalizing start count fuel with
  | nil =>
    have hstop : start = last := Fin.ext (hstart.trans hlast.symm)
    rw [List.nil_append, ← hstop]
    rw [← hstop] at hbound
    refine scanFrames_cutOff hsuffix ?_ (by simpa using hcount) hbound (by simpa using hfuel)
    rcases hcheckpoint with hpassed | ⟨record, hrecord, -⟩
    · exact hpassed
    · cases hrecord
  | @cons previous offset frame rest decoded endOffset sequence records decodes store declared ends
      numbered tail ih =>
    have hlen := length_of_decode decodes
    have h24 : journalV1FramePrefixLen + journalV1FrameCrcLen = 24 := rfl
    have h20 : journalV1FramePrefixLen = 20 := rfl
    rw [List.length_cons] at hcount hfuel
    rw [List.length_append] at hlast
    obtain ⟨fuel, rfl⟩ : ∃ n, fuel = n + 1 := ⟨fuel - 1, by omega⟩
    have hbehind : checkpoint.endOffset ≤ start ∨ endOffset ≤ checkpoint.endOffset := by
      rcases hcheckpoint with hpassed | ⟨record, hrecord, hsame⟩
      · exact Or.inl hpassed
      · rw [← hsame]
        refine Or.inr (Fin.le_def.mpr ?_)
        rcases List.mem_cons.mp hrecord with hhead | htail
        · rw [hhead]
        · have hbetween := tail.endOffset_le record htail
          omega
    have hnext : checkpoint.endOffset ≤ endOffset ∨
        ∃ record ∈ records, record.endOffset = checkpoint.endOffset := by
      rcases hcheckpoint with hpassed | ⟨record, hrecord, hsame⟩
      · refine Or.inl ?_
        rw [Fin.le_def] at hpassed ⊢
        omega
      · rcases List.mem_cons.mp hrecord with hhead | htail
        · refine Or.inl (Fin.le_def.mpr ?_)
          rw [← hsame, hhead]
        · exact Or.inr ⟨record, htail, hsame⟩
    have hrest : scanFrames identity limits checkpoint fuel (count + 1) endOffset (some sequence)
        (rest ++ suffix) = .ok ⟨records, last, cutAt suffix last, none⟩ :=
      ih rfl (by omega) hnext (by omega) (by omega)
    have hne : frame ++ rest ++ suffix ≠ [] := by
      intro hnil
      have hzero := congrArg List.length hnil
      simp only [List.length_append, List.length_nil] at hzero
      omega
    have hadd : checkedAdd start frame.length = some endOffset := by
      rw [checkedAdd_eq_some]
      omega
    have hhead : ¬(frame ++ rest ++ suffix).length < journalV1FramePrefixLen := by
      simp only [List.length_append]
      omega
    have hwhole : ¬(frame ++ rest ++ suffix).length < frame.length := by
      simp only [List.length_append]
      omega
    unfold scanFrames
    rw [if_neg hne, if_neg hhead, List.append_assoc, frameLen_of_decode decodes]
    rw [List.append_assoc] at hwhole
    simp only [hadd, slice_head rfl, decodes, List.drop_left, if_neg hwhole]
    simp only [bind_ok, exists_unit, refuse_ok, mapError_ok, pure_ok]
    refine ⟨by omega, ?_, ?_, sequence, ?_, _, hrest, rfl⟩
    · rw [Fin.lt_def, Fin.lt_def]
      rw [Fin.le_def, Fin.le_def] at hbehind
      omega
    · simp [store, declared]
    · rw [AppendSequenceV1.new_ok]
      exact numbered

end Scan

section Boundary

variable {storeId : StoreId} {limits : DecodeLimitsV1} {previous : Option AppendSequenceV1}
  {sequenceFloor : U64} {records : List RecoveredAdmissionV1} {body : Bytes}
  {checkpoint : CheckpointState}

theorem Frames.increasing {offset : Nat}
    (h : Frames storeId limits previous offset records body) :
    records.Pairwise fun first second => first.endOffset < second.endOffset := by
  induction h with
  | nil => exact List.Pairwise.nil
  | cons _ _ _ _ _ tail ih =>
    refine List.Pairwise.cons ?_ ih
    intro record hrecord
    exact Fin.lt_def.mpr (tail.endOffset_le record hrecord).1

theorem boundaryOffset_concat (records : List RecoveredAdmissionV1)
    (record : RecoveredAdmissionV1) :
    boundaryOffset (records ++ [record]) = record.endOffset.val := by
  unfold boundaryOffset
  rw [List.getLast?_concat]

theorem lastSequence_concat (sequenceFloor : U64) (records : List RecoveredAdmissionV1)
    (record : RecoveredAdmissionV1) :
    lastSequence sequenceFloor (records ++ [record]) = record.admission.appendSequence := by
  unfold lastSequence
  rw [List.getLast?_concat]

/-- A checkpoint at a boundary names the header and the floor, or a record of the journal that has
no other record with its end. -/
theorem CheckpointState.AtBoundary.found (h : checkpoint.AtBoundary sequenceFloor records)
    (hframes : Frames storeId limits previous journalV1HeaderLen records body) :
    (checkpoint.endOffset.val = journalV1HeaderLen ∧ checkpoint.appendSequence = sequenceFloor ∧
      records.find? (fun record => record.endOffset = checkpoint.endOffset) = none) ∨
    ∃ record ∈ records, record.endOffset = checkpoint.endOffset ∧
      checkpoint.appendSequence = record.admission.appendSequence ∧
      records.find? (fun record => record.endOffset = checkpoint.endOffset) = some record := by
  obtain ⟨durable, behind, hrecords, hsequence, hoffset⟩ := h
  rcases List.eq_nil_or_concat durable with hnil | ⟨earlier, record, hlast⟩
  · subst hnil
    refine Or.inl ⟨hoffset, hsequence, ?_⟩
    rw [List.find?_eq_none]
    intro record hrecord hsame
    have hbehind := (hframes.endOffset_le record hrecord).1
    rw [of_decide_eq_true hsame] at hbehind
    change checkpoint.endOffset.val = journalV1HeaderLen at hoffset
    omega
  · rw [List.concat_eq_append] at hlast
    rw [hlast, lastSequence_concat] at hsequence
    rw [hlast, boundaryOffset_concat] at hoffset
    have hsame : record.endOffset = checkpoint.endOffset := Fin.ext hoffset.symm
    have hsplit : records = earlier ++ record :: behind := by
      rw [hrecords, hlast, List.append_assoc, List.singleton_append]
    refine Or.inr ⟨record, ?_, hsame, hsequence, ?_⟩
    · rw [hsplit]
      exact List.mem_append_right _ List.mem_cons_self
    · have hincreasing := hframes.increasing
      rw [hsplit, List.pairwise_append] at hincreasing
      rw [hsplit, List.find?_append, List.find?_eq_none.mpr]
      · rw [Option.none_or]
        exact List.find?_cons_of_pos (decide_eq_true hsame)
      · intro other hother hequal
        have hlt := hincreasing.2.2 other hother record List.mem_cons_self
        rw [of_decide_eq_true hequal, hsame] at hlt
        exact absurd (Fin.lt_def.mp hlt) (Nat.lt_irrefl _)

end Boundary

/-- A journal of whole frames and what is left of one more, within its limits and opened at a
checkpoint that names one of its boundaries: the scan accepts it, returns every frame, and cuts off
what is left of the last one and nothing else, which is never in front of the checkpoint. -/
theorem scanJournal_reopens (identity : JournalIdentity) (sequenceFloor : U64)
    (limits : ActiveJournalLimits) (checkpoint : CheckpointState)
    (records : List RecoveredAdmissionV1) (body suffix : Bytes)
    (hframes : Frames identity.storeId limits.decode (floorSequence sequenceFloor)
      journalV1HeaderLen records body)
    (hsuffix : suffix = [] ∨ CutOff limits.decode suffix)
    (hcheckpoint : checkpoint.AtBoundary sequenceFloor records)
    (hcount : records.length < limits.recordLimit)
    (hbytes : (encodeHeader identity.storeId ++ (body ++ suffix)).length ≤ limits.activeBytes) :
    ∃ last : U64, last.val = journalV1HeaderLen + body.length ∧ checkpoint.endOffset ≤ last ∧
      scanJournal (encodeHeader identity.storeId ++ (body ++ suffix)) identity limits checkpoint
        sequenceFloor = .ok ⟨records, last, if suffix = [] then none else some last, none⟩ ∧
      (encodeHeader identity.storeId ++ (body ++ suffix)).take last.val =
        encodeHeader identity.storeId ++ body := by
  have hheader := length_encodeHeader identity.storeId
  have hmaximum := limits.bytes_le
  have hrecords := hframes.length_le
  simp only [List.length_append] at hbytes
  have hlarge : maxActiveJournalBytes < 2 ^ 64 := by decide
  have hbound : journalV1HeaderLen + body.length < 2 ^ 64 := by omega
  have hfound := hcheckpoint.found hframes
  have hpassed : checkpoint.endOffset ≤ Fin.ofNat (2 ^ 64) journalV1HeaderLen ∨
      ∃ record ∈ records, record.endOffset = checkpoint.endOffset := by
    rcases hfound with ⟨hgenesis, -, -⟩ | ⟨record, hrecord, hsame, -, -⟩
    · exact Or.inl (Fin.le_def.mpr (Nat.le_of_eq hgenesis))
    · exact Or.inr ⟨record, hrecord, hsame⟩
  have hend : checkpoint.endOffset.val ≤ journalV1HeaderLen + body.length := by
    rcases hfound with ⟨hgenesis, -, -⟩ | ⟨record, hrecord, hsame, -, -⟩
    · omega
    · rw [← hsame]
      exact (hframes.endOffset_le record hrecord).2
  refine ⟨⟨journalV1HeaderLen + body.length, hbound⟩, rfl, Fin.le_def.mpr hend, ?_, ?_⟩
  · have hscan : scanFrames identity limits checkpoint
        (encodeHeader identity.storeId ++ (body ++ suffix)).length 0
        (Fin.ofNat _ journalV1HeaderLen) (floorSequence sequenceFloor) (body ++ suffix) =
        .ok ⟨records, ⟨journalV1HeaderLen + body.length, hbound⟩,
          cutAt suffix ⟨journalV1HeaderLen + body.length, hbound⟩, none⟩ := by
      refine scanFrames_reopen hframes hsuffix rfl rfl hpassed (by omega) (by dsimp only; omega) ?_
      simp only [List.length_append]
      omega
    unfold scanJournal
    rw [List.drop_left' hheader, hscan]
    change (do refuse _ _; _) = _
    rw [then_ok, refuse_ok]
    refine ⟨?_, ?_⟩
    · rintro (hshort | ⟨hgenesis, hother⟩)
      · exact absurd (Fin.lt_def.mp hshort) (Nat.not_lt.mpr hend)
      · rcases hfound with ⟨-, hfloor, -⟩ | ⟨record, hrecord, hsame, -, -⟩
        · exact hother hfloor
        · have hbehind := (hframes.endOffset_le record hrecord).1
          rw [hsame] at hbehind
          omega
    · dsimp only
      rcases hfound with ⟨-, hfloor, hnone⟩ | ⟨record, -, -, hsequence, hsome⟩
      · rw [hnone, then_ok, refuse_ok, not_not]
        exact ⟨hfloor, rfl⟩
      · rw [hsome, then_ok, refuse_ok, not_not]
        exact ⟨hsequence, rfl⟩
  · rw [← List.append_assoc]
    refine List.take_left' ?_
    rw [List.length_append, hheader]

theorem sampleDecoded_cutOff {suffix : Bytes} (h : suffix <+: journalV1FrameMagic) :
    CutOff sampleJournalLimits.decode suffix := by
  obtain ⟨bytes, -, hdecode⟩ := sampleDecoded_frame
  have hlong := length_of_decode hdecode
  obtain ⟨sequence, payload, hframe, -⟩ := decodeAdmissionFrameV1_ok.mp hdecode
  have hmagic : journalV1FrameMagic <+: bytes := by
    refine ⟨bytes.drop journalV1FrameMagic.length, ?_⟩
    rw [hframe, frame_eq]
    rfl
  refine ⟨bytes, none, sampleDecoded, hdecode, h.trans hmagic, ?_⟩
  intro hsame
  have hlen := h.length_le
  rw [hsame] at hlen
  have hfour : journalV1FrameMagic.length = 4 := rfl
  simp only [journalV1FramePrefixLen, journalV1FrameCrcLen] at hlong
  omega

/-- Behind a checkpoint at the end of the header, what is left of the first frame is cut off, and
the file then ends at the checkpoint. -/
theorem scanJournal_truncates_at_checkpoint :
    ∃ suffix scan, CutOff sampleJournalLimits.decode suffix ∧
      Frames (sampleIdentity 1) sampleJournalLimits.decode (floorSequence 0) journalV1HeaderLen []
        [] ∧
      (genesisCheckpointState 0).AtBoundary 0 [] ∧ 0 < sampleJournalLimits.recordLimit ∧
      (encodeHeader (sampleIdentity 1) ++ ([] ++ suffix)).length ≤ sampleJournalLimits.activeBytes ∧
      scanJournal (encodeHeader (sampleIdentity 1) ++ ([] ++ suffix)) ⟨sampleIdentity 1, 1⟩
        sampleJournalLimits (genesisCheckpointState 0) 0 = .ok scan ∧
      scan.truncateTo = some (genesisCheckpointState 0).endOffset := by
  refine ⟨journalV1FrameMagic, ⟨[], Fin.ofNat _ journalV1HeaderLen,
    some (Fin.ofNat _ journalV1HeaderLen), none⟩, sampleDecoded_cutOff List.prefix_rfl, .nil,
    ⟨[], [], rfl, rfl, rfl⟩, by decide, by decide +kernel, ?_, rfl⟩
  decide +kernel

/-- The first frame of a journal is whole and the second one is cut off inside its magic. -/
theorem scanJournal_reopens_sample : ∃ records body scan,
    Frames (sampleIdentity 1) sampleJournalLimits.decode (floorSequence 0) journalV1HeaderLen
      records body ∧
    records.length = 1 ∧
    scanJournal (encodeHeader (sampleIdentity 1) ++ (body ++ journalV1FrameMagic))
      ⟨sampleIdentity 1, 1⟩ sampleJournalLimits (genesisCheckpointState 0) 0 = .ok scan ∧
    scan.records = records ∧ scan.truncateTo = some scan.validEnd := by
  obtain ⟨bytes, -, hdecode⟩ := sampleDecoded_frame
  have hshort := length_le_of_decode hdecode
  simp only [journalV1FramePrefixLen, maxAdmissionPayloadV1, journalV1FrameCrcLen] at hshort
  have hend : journalV1HeaderLen + bytes.length < 2 ^ 64 := by
    unfold journalV1HeaderLen
    omega
  have hframes : Frames (sampleIdentity 1) sampleJournalLimits.decode (floorSequence 0)
      journalV1HeaderLen [⟨⟨journalV1HeaderLen + bytes.length, hend⟩, sampleDecoded⟩]
      (bytes ++ []) :=
    Frames.cons hdecode rfl rfl rfl (show sampleDecoded.appendSequence = sampleSequence.value
      from rfl) .nil
  obtain ⟨last, -, -, hscan, -⟩ := scanJournal_reopens ⟨sampleIdentity 1, 1⟩ 0 sampleJournalLimits
    (genesisCheckpointState 0) _ (bytes ++ []) journalV1FrameMagic hframes
    (Or.inr (sampleDecoded_cutOff List.prefix_rfl)) ⟨[], _, rfl, rfl, rfl⟩
    (show 1 < maxActiveJournalRecords by decide) (by
      have hfour : journalV1FrameMagic.length = 4 := rfl
      have hheader : journalV1HeaderLen = 28 := rfl
      have hlimit : sampleJournalLimits.activeBytes = 536870912 := rfl
      simp only [List.length_append, length_encodeHeader, hfour, List.length_nil]
      omega)
  exact ⟨_, _, _, hframes, rfl, hscan, rfl, rfl⟩

end Historian
