import Historian.JournalRuns

namespace Historian

open Wire Checks Files

/-- One of the two slots of a checkpoint file. -/
def checkpointSlot (file : Bytes) (slotIndex : Nat) : Bytes :=
  slice file (slotIndex * checkpointSlotLen) checkpointSlotLen

/-- The header is the end of the records exactly when the generation holds none. -/
structure CheckpointState.Anchored (sequenceFloor : U64) (state : CheckpointState) : Prop where
  header : journalV1HeaderLen ≤ state.endOffset.val
  empty : state.appendSequence = sequenceFloor ↔ state.endOffset.val = journalV1HeaderLen

/-- One checkpoint is the successor of another. -/
structure CheckpointState.Follows (next prior : CheckpointState) : Prop where
  generation : prior.slotGeneration.val + 1 = next.slotGeneration.val
  sequence : prior.appendSequence < next.appendSequence
  offset : prior.endOffset < next.endOffset

/-- A checkpoint file whose slots hold the current checkpoint and the one before it. The first
checkpoint has none before it, and its file is otherwise zero. -/
structure CheckpointImage (identity : JournalIdentity) (sequenceFloor : U64) (file : Bytes)
    (prior : Option CheckpointState) (current : CheckpointState) : Prop where
  length : file.length = checkpointFileLen
  newest : checkpointSlot file (checkpointSlotIndex current.slotGeneration) =
    encodeCheckpoint identity current
  older : checkpointSlot file (1 - checkpointSlotIndex current.slotGeneration) =
    match prior with
    | none => zeros checkpointSlotLen
    | some before => encodeCheckpoint identity before
  genesis : prior = none → current.slotGeneration = 1
  follows : ∀ before ∈ prior, current.Follows before ∧ before.Anchored sequenceFloor ∧
    before.slotGeneration ≠ 0
  anchored : current.Anchored sequenceFloor

section Slots

variable {identity : JournalIdentity} {sequenceFloor : U64} {state : CheckpointState}
  {journalLen : Nat}

theorem checkpointSlotIndex_le (slotGeneration : U64) : checkpointSlotIndex slotGeneration ≤ 1 := by
  unfold checkpointSlotIndex
  omega

/-- The lengths of the fields of a slot, in order. -/
def checkpointLayout : List Nat := [8, 2, 2, 16, 8, 8, 8, 8]

theorem cut_encodeCheckpoint (identity : JournalIdentity) (state : CheckpointState) :
    cut (encodeCheckpoint identity state) 0 checkpointLayout = checkpointFields identity state := by
  have hlens : (checkpointFields identity state).map List.length = checkpointLayout := by
    simp [checkpointFields, checkpointLayout, checkpointMagic, identity.storeId.length_eq]
  rw [← hlens]
  exact cut_flatten_append _ _

theorem encodeCheckpoint_ne_zeros (identity : JournalIdentity) (state : CheckpointState) (n : Nat) :
    encodeCheckpoint identity state ≠ zeros n := by
  intro h
  have hhead : (encodeCheckpoint identity state).headD 0 = 0x4f := rfl
  rw [h] at hhead
  have hzero : (zeros n).headD 0 = 0 := by
    cases n with
    | zero => rfl
    | succ n => rfl
  rw [hzero] at hhead
  exact absurd hhead (by decide)

/-- A slot is read back as the checkpoint that was written to it. -/
theorem decodeCheckpointSlot_encode (hgeneration : state.slotGeneration ≠ 0)
    (hanchored : state.Anchored sequenceFloor) (hend : state.endOffset.val ≤ journalLen) :
    decodeCheckpointSlot (encodeCheckpoint identity state)
      (checkpointSlotIndex state.slotGeneration) identity sequenceFloor journalLen =
      .valid state := by
  have hlen := length_encodeCheckpoint identity state
  have hcut := cut_encodeCheckpoint identity state
  simp only [checkpointLayout, checkpointFields, cut, List.cons.injEq, Nat.zero_add,
    Nat.reduceAdd] at hcut
  obtain ⟨hmagic, hversion, hslotLen, hstore, hnumber, hslot, hsequence, hoffset, -⟩ := hcut
  have hsum : crc32c (slice (encodeCheckpoint identity state) 0 60) =
      u32At (encodeCheckpoint identity state) 60 := by
    apply withChecksum_agrees
    simp [checkpointFields, checkpointMagic, identity.storeId.length_eq]
  have hidentity : (Identity.fromBytes identity.storeId.bytes).toOption =
      some identity.storeId := by
    rw [Identity.fromBytes_ok.mpr rfl]
    rfl
  unfold decodeCheckpointSlot
  rw [if_neg (encodeCheckpoint_ne_zeros identity state _), if_neg]
  · dsimp only
    rw [hstore, hidentity, u64At_of_slice hnumber, u64At_of_slice hslot, u64At_of_slice hsequence,
      u64At_of_slice hoffset, if_neg]
    simp only [ne_eq, not_true_eq_false, false_or, not_or, not_not, Nat.not_lt]
    exact ⟨hgeneration, hanchored.header, hend, hanchored.empty⟩
  · rw [hmagic, u16At_of_slice (by decide) hversion, u16At_of_slice (by decide) hslotLen, hsum,
      hlen]
    simp

/-- An overwritten range leaves the fields in front of it and behind it. -/
theorem slice_overwrite {file bytes : Bytes} {offset start len : Nat}
    (hoffset : offset + bytes.length ≤ file.length)
    (hapart : start + len ≤ offset ∨ offset + bytes.length ≤ start) :
    slice (overwrite file offset bytes) start len = slice file start len := by
  have htake : (file.take offset).length = offset := by
    rw [List.length_take]
    omega
  unfold overwrite
  rcases hapart with hfront | hbehind
  · rw [slice_left (by omega)]
    unfold slice
    rw [List.drop_take, List.take_take, Nat.min_eq_left (by omega)]
  · rw [slice_skip (by omega), slice_skip (by omega), htake]
    unfold slice
    rw [List.drop_drop]
    congr 2
    omega

theorem length_overwrite {file bytes : Bytes} {offset : Nat}
    (hoffset : offset + bytes.length ≤ file.length) :
    (overwrite file offset bytes).length = file.length := by
  unfold overwrite
  simp only [List.length_append, List.length_take, List.length_drop]
  omega

/-- A range within one slot leaves the other slot. -/
theorem checkpointSlot_overwrite {file bytes : Bytes} {written other : Nat}
    (hfile : file.length = checkpointFileLen) (hbytes : bytes.length ≤ checkpointSlotLen)
    (hwritten : written ≤ 1) (hne : other ≠ written) :
    checkpointSlot (overwrite file (written * checkpointSlotLen) bytes) other =
      checkpointSlot file other := by
  unfold checkpointFileLen at hfile
  unfold checkpointSlot checkpointSlotLen at *
  apply slice_overwrite
  · omega
  · omega

theorem checkpointSlot_write {file : Bytes} (hfile : file.length = checkpointFileLen)
    (identity : JournalIdentity) (state : CheckpointState) :
    checkpointSlot (writeCheckpointSlot file identity state)
      (checkpointSlotIndex state.slotGeneration) = encodeCheckpoint identity state := by
  have hindex := checkpointSlotIndex_le state.slotGeneration
  have hlen := length_encodeCheckpoint identity state
  unfold checkpointFileLen at hfile
  unfold checkpointSlot writeCheckpointSlot checkpointSlotLen at *
  refine slice_append ?_ hlen
  rw [List.length_take]
  omega

/-- The slots of consecutive checkpoints are different ones. -/
theorem checkpointSlotIndex_next {prior next : U64} (hprior : prior ≠ 0)
    (h : prior.val + 1 = next.val) : checkpointSlotIndex next = 1 - checkpointSlotIndex prior := by
  have hpos : prior.val ≠ 0 := fun hzero => hprior (Fin.ext hzero)
  unfold checkpointSlotIndex
  omega

end Slots

namespace CheckpointImage

variable {identity : JournalIdentity} {sequenceFloor : U64} {file : Bytes}
  {prior : Option CheckpointState} {current next : CheckpointState} {journalLen : Nat}

theorem slotGeneration_ne_zero (h : CheckpointImage identity sequenceFloor file prior current) :
    current.slotGeneration ≠ 0 := by
  cases prior with
  | none =>
    rw [h.genesis rfl]
    decide
  | some before =>
    have hnext := (h.follows before rfl).1.generation
    intro hzero
    rw [hzero] at hnext
    exact absurd hnext (Nat.succ_ne_zero _)

/-- A file with the current checkpoint is read as it. -/
theorem read (h : CheckpointImage identity sequenceFloor file prior current)
    (hend : current.endOffset.val ≤ journalLen) :
    readCheckpoint file identity sequenceFloor journalLen = .ok (some current) := by
  have hne := h.slotGeneration_ne_zero
  have hnewest : decodeCheckpointSlot (checkpointSlot file
      (checkpointSlotIndex current.slotGeneration)) (checkpointSlotIndex current.slotGeneration)
      identity sequenceFloor journalLen = .valid current := by
    rw [h.newest]
    exact decodeCheckpointSlot_encode hne h.anchored hend
  have hfirst : slice file 0 checkpointSlotLen = checkpointSlot file 0 := rfl
  have hsecond : slice file checkpointSlotLen checkpointSlotLen = checkpointSlot file 1 := rfl
  have holder := h.older
  unfold readCheckpoint
  rw [hfirst, hsecond]
  cases prior with
  | none =>
    have hone := h.genesis rfl
    have hindex : checkpointSlotIndex current.slotGeneration = 0 := by
      rw [hone]
      rfl
    rw [hindex] at hnewest holder
    have hzero : decodeCheckpointSlot (checkpointSlot file 1) 1 identity sequenceFloor
        journalLen = .zero := by
      rw [holder]
      exact if_pos (by rw [length_zeros])
    rw [hnewest, hzero]
    simp [refuse, hone]
  | some before =>
    obtain ⟨hfollows, hanchored, hbefore⟩ := h.follows before rfl
    have hgeneration := hfollows.generation
    have hoffset := hfollows.offset
    have hlt : before.slotGeneration < current.slotGeneration := by
      rw [Fin.lt_def]
      omega
    have hprior : decodeCheckpointSlot (checkpointSlot file
        (checkpointSlotIndex before.slotGeneration)) (checkpointSlotIndex before.slotGeneration)
        identity sequenceFloor journalLen = .valid before := by
      have hindex := checkpointSlotIndex_next hbefore hgeneration
      have hle := checkpointSlotIndex_le before.slotGeneration
      rw [show checkpointSlotIndex before.slotGeneration =
        1 - checkpointSlotIndex current.slotGeneration by omega, holder,
        show 1 - checkpointSlotIndex current.slotGeneration =
          checkpointSlotIndex before.slotGeneration by omega]
      refine decodeCheckpointSlot_encode hbefore hanchored ?_
      rw [Fin.lt_def] at hoffset
      omega
    have hindex := checkpointSlotIndex_next hbefore hgeneration
    have hprogress : ¬(current.slotGeneration.val ≠ before.slotGeneration.val + 1 ∨
        current.appendSequence ≤ before.appendSequence ∨
        current.endOffset ≤ before.endOffset) := by
      have hsequence := hfollows.sequence
      rw [Fin.lt_def] at hsequence hoffset
      rw [Fin.le_def, Fin.le_def]
      omega
    have hcases := checkpointSlotIndex_le before.slotGeneration
    rcases Nat.eq_zero_or_pos (checkpointSlotIndex before.slotGeneration) with hzero | hpos
    · rw [hzero] at hindex hprior
      rw [hindex] at hnewest
      rw [hprior, hnewest]
      dsimp only
      rw [if_pos hlt]
      simp only [refuse, if_neg hprogress]
      rfl
    · have hone : checkpointSlotIndex before.slotGeneration = 1 := by omega
      rw [hone] at hindex hprior
      rw [hindex] at hnewest
      rw [hprior, hnewest]
      dsimp only
      rw [if_neg (by rw [Fin.lt_def] at *; omega)]
      simp only [refuse, if_neg hprogress]
      rfl

/-- The next checkpoint is written over the one before the current one. -/
theorem write (h : CheckpointImage identity sequenceFloor file prior current)
    (hfollows : next.Follows current) (hanchored : next.Anchored sequenceFloor) :
    CheckpointImage identity sequenceFloor (writeCheckpointSlot file identity next) (some current)
      next := by
  have hne := h.slotGeneration_ne_zero
  have hindex := checkpointSlotIndex_next hne hfollows.generation
  have hle := checkpointSlotIndex_le current.slotGeneration
  have hle' := checkpointSlotIndex_le next.slotGeneration
  have hother : 1 - checkpointSlotIndex next.slotGeneration =
      checkpointSlotIndex current.slotGeneration := by omega
  have hlen := length_encodeCheckpoint identity next
  constructor
  case length =>
    rw [← overwrite_checkpoint, length_overwrite]
    · exact h.length
    · rw [hlen, h.length]
      unfold checkpointSlotLen checkpointFileLen
      omega
  case newest => exact checkpointSlot_write h.length identity next
  case older =>
    rw [hother, ← overwrite_checkpoint]
    dsimp only
    rw [checkpointSlot_overwrite h.length (Nat.le_of_eq hlen) hle' (by omega)]
    exact h.newest
  case genesis =>
    intro hnone
    cases hnone
  case follows =>
    intro before hbefore
    cases hbefore
    exact ⟨hfollows, h.anchored, hne⟩
  case anchored => exact hanchored

/-- Whatever part of the next checkpoint a write leaves in the file, the current one stays. -/
theorem overwrite_current (h : CheckpointImage identity sequenceFloor file prior current)
    (hgeneration : current.slotGeneration.val + 1 = next.slotGeneration.val) {bytes : Bytes}
    (hbytes : bytes.length ≤ checkpointSlotLen) :
    checkpointSlot (overwrite file (checkpointSlotIndex next.slotGeneration * checkpointSlotLen)
      bytes) (checkpointSlotIndex current.slotGeneration) = encodeCheckpoint identity current := by
  have hindex := checkpointSlotIndex_next h.slotGeneration_ne_zero hgeneration
  have hle := checkpointSlotIndex_le current.slotGeneration
  have hle' := checkpointSlotIndex_le next.slotGeneration
  rw [checkpointSlot_overwrite h.length hbytes hle' (by omega)]
  exact h.newest

/-- A new file has the first checkpoint in its first slot. -/
theorem created (identity : JournalIdentity) (sequenceFloor : U64) :
    CheckpointImage identity sequenceFloor (writeCheckpointSlot (resize [] checkpointFileLen)
      identity (genesisCheckpointState sequenceFloor)) none
      (genesisCheckpointState sequenceFloor) := by
  have hempty : resize [] checkpointFileLen = zeros checkpointFileLen := rfl
  have hindex : checkpointSlotIndex (genesisCheckpointState sequenceFloor).slotGeneration = 0 := rfl
  have hlen := length_encodeCheckpoint identity (genesisCheckpointState sequenceFloor)
  have hfile := length_zeros checkpointFileLen
  rw [hempty]
  constructor
  case length =>
    rw [← overwrite_checkpoint, length_overwrite]
    · exact hfile
    · rw [hlen, hfile, hindex]
      decide
  case newest => exact checkpointSlot_write hfile identity _
  case older =>
    rw [← overwrite_checkpoint, hindex, checkpointSlot_overwrite hfile (Nat.le_of_eq hlen)
      (by omega) (by omega)]
    exact slice_zeros (by decide)
  case genesis => exact fun _ => rfl
  case follows =>
    intro before hbefore
    cases hbefore
  case anchored => exact ⟨Nat.le_refl _, fun _ => rfl, fun _ => rfl⟩

end CheckpointImage

/-- A journal with the durable cutoffs that its synchronisations have answered, each once and the
newest last. -/
structure CheckpointHistory where
  journal : JournalHistory
  cutoffs : List DurableCutoff

namespace CheckpointHistory

/-- The cutoff that a journal is created with is durable. -/
def created (identity : JournalIdentity) (sequenceFloor : U64) (limits : ActiveJournalLimits) :
    CheckpointHistory :=
  ⟨.created identity sequenceFloor limits,
    [durableCutoffFromState identity (genesisCheckpointState sequenceFloor)]⟩

def step (history : CheckpointHistory) (next : JournalCall × JournalIo) : CheckpointHistory :=
  ⟨history.journal.step next,
    match (history.journal.handle.call next.2 next.1).1 with
    | .synced (.ok cutoff) =>
      if history.cutoffs.getLast? = some cutoff then history.cutoffs
      else history.cutoffs ++ [cutoff]
    | _ => history.cutoffs⟩

def run (history : CheckpointHistory) (calls : List (JournalCall × JournalIo)) :
    CheckpointHistory :=
  calls.foldl step history

/-- What the checkpoint file and the answered cutoffs are to each other. -/
structure Sound (identity : JournalIdentity) (sequenceFloor : U64) (limits : ActiveJournalLimits)
    (history : CheckpointHistory) : Prop where
  journal : history.journal.Sound identity sequenceFloor limits
  positive : ∀ frame ∈ history.journal.frames, 0 < frame.bytes.length
  reaches : history.journal.handle.journal.activeBytes.val ≤
    history.journal.handle.journalFile.length
  durable : ∃ earlier : List CheckpointState,
    history.cutoffs = (earlier ++ [history.journal.handle.journal.checkpointState]).map
        (durableCutoffFromState identity) ∧
      history.journal.handle.journal.checkpointState.slotGeneration.val = earlier.length + 1 ∧
      CheckpointImage identity sequenceFloor history.journal.handle.checkpointFile
        earlier.getLast? history.journal.handle.journal.checkpointState

end CheckpointHistory

section Progress

variable {identity : JournalIdentity} {sequenceFloor : U64} {limits : ActiveJournalLimits}

theorem framesLen_split (frames : List PreparedFrameV1) (count : Nat) :
    framesLen frames = framesLen (frames.take count) + framesLen (frames.drop count) := by
  unfold framesLen
  rw [← List.sum_append, ← List.map_append, List.take_append_drop]

theorem framesLen_pos {frames : List PreparedFrameV1}
    (hpositive : ∀ frame ∈ frames, 0 < frame.bytes.length) (hne : frames ≠ []) :
    0 < framesLen frames := by
  cases frames with
  | nil => exact absurd rfl hne
  | cons frame rest =>
    have hframe := hpositive frame List.mem_cons_self
    unfold framesLen
    rw [List.map_cons, List.sum_cons]
    omega

theorem ActiveJournal.Takes.positive {journal : ActiveJournal} {frame : PreparedFrameV1}
    {endOffset : U64} {decoded : DecodedAdmissionV1}
    (h : journal.Takes frame endOffset decoded) : 0 < frame.bytes.length := by
  obtain ⟨previous, hdecode⟩ := h.decodes
  obtain ⟨sequence, payload, hbytes, -⟩ := decodeAdmissionFrameV1_ok.mp hdecode
  rw [hbytes, length_frame]
  unfold journalV1FramePrefixLen
  omega

/-- A synchronisation that has something to make durable takes the next slot generation. -/
theorem ActiveJournal.prepareSync_advances {journal : ActiveJournal} {next : CheckpointState}
    (h : journal.prepareSync = .ok (some next)) :
    journal.checkpointState.slotGeneration.val + 1 = next.slotGeneration.val ∧
      ¬(journal.lastAppendSequence = journal.checkpointState.appendSequence ∧
        journal.activeBytes = journal.checkpointState.endOffset) := by
  unfold ActiveJournal.prepareSync at h
  rw [then_ok] at h
  obtain ⟨-, h⟩ := h
  split at h
  next => cases h
  next hpending =>
    simp only [bind_ok, pure_ok, Option.some.injEq] at h
    obtain ⟨found, hfound, rfl⟩ := h
    unfold ActiveJournal.pendingCheckpointState at hfound
    split at hfound
    next => cases hfound
    next generation hadd =>
      cases hfound
      exact ⟨checkedAdd_eq_some.mp hadd, hpending⟩

theorem JournalHandle.syncPending_adopts {handle : JournalHandle} {next : CheckpointState}
    (hchecks : handle.journal.prepareSync = .ok (some next)) :
    handle.syncPending .succeeds = (.ok (durableCutoffFromState handle.journal.identity next),
      { handle with
        checkpointFile := writeCheckpointSlot handle.checkpointFile handle.journal.identity next
        journal := { handle.journal with checkpointState := next }
        syncCount := saturatingSucc handle.syncCount }) := by
  unfold JournalHandle.syncPending JournalIo.succeeds
  rw [hchecks]
  dsimp only
  rw [overwrite_checkpoint]

/-- The checkpoint that a synchronisation prepares is behind the current one, and it is the header
exactly when there is no record. -/
theorem JournalHistory.Sound.next {history : JournalHistory}
    (h : history.Sound identity sequenceFloor limits)
    (hpositive : ∀ frame ∈ history.frames, 0 < frame.bytes.length) {next : CheckpointState}
    (hnext : history.handle.journal.prepareSync = .ok (some next)) :
    next.Follows history.handle.journal.checkpointState ∧ next.Anchored sequenceFloor := by
  obtain ⟨-, hsequence, hend⟩ := ActiveJournal.prepareSync_some hnext
  obtain ⟨hgeneration, hpending⟩ := ActiveJournal.prepareSync_advances hnext
  obtain ⟨count, hcount, hcutoffSequence, hcutoffEnd⟩ := h.cutoff
  change history.handle.journal.checkpointState.appendSequence.val = _ at hcutoffSequence
  change history.handle.journal.checkpointState.endOffset.val = _ at hcutoffEnd
  have hlast := h.sequence
  have hactive := h.activeBytes
  have hsplit := framesLen_split history.frames count
  have hbehind : count < history.frames.length := by
    rcases Nat.lt_or_ge count history.frames.length with hlt | hge
    · exact hlt
    · have hall : history.frames.take count = history.frames := List.take_of_length_le hge
      rw [hall] at hcutoffEnd
      refine absurd ⟨Fin.ext ?_, Fin.ext ?_⟩ hpending
      · omega
      · omega
  have hdrop : 0 < framesLen (history.frames.drop count) := by
    apply framesLen_pos
    · exact fun frame hframe => hpositive frame (List.mem_of_mem_drop hframe)
    · rw [Ne, List.drop_eq_nil_iff]
      omega
  refine ⟨⟨hgeneration, ?_, ?_⟩, ?_, ?_⟩
  · rw [Fin.lt_def, hsequence]
    omega
  · rw [Fin.lt_def, hend]
    omega
  · rw [hend]
    omega
  · rw [hsequence, hend, Fin.ext_iff]
    omega

end Progress

namespace CheckpointHistory

variable {identity : JournalIdentity} {sequenceFloor : U64} {limits : ActiveJournalLimits}
  {history : CheckpointHistory}

theorem Sound.created (identity : JournalIdentity) (sequenceFloor : U64)
    (limits : ActiveJournalLimits) :
    (created identity sequenceFloor limits).Sound identity sequenceFloor limits where
  journal := JournalHistory.Sound.created identity sequenceFloor limits
  positive := by
    intro frame hframe
    cases hframe
  reaches := by
    change journalV1HeaderLen ≤ (encodeHeader identity.storeId).length
    rw [length_encodeHeader]
  durable := ⟨[], rfl, rfl, CheckpointImage.created identity sequenceFloor⟩

theorem Sound.same (h : history.Sound identity sequenceFloor limits) {after : CheckpointHistory}
    (hjournal : after.journal = history.journal) (hcutoffs : after.cutoffs = history.cutoffs) :
    after.Sound identity sequenceFloor limits := by
  have hafter : after = ⟨after.journal, after.cutoffs⟩ := rfl
  rw [hafter, hjournal, hcutoffs]
  exact h

theorem Sound.append (h : history.Sound identity sequenceFloor limits) {frame : PreparedFrameV1}
    (hbuilt : frame.Built) (io : JournalIo) :
    (history.step (.append frame, io)).Sound identity sequenceFloor limits := by
  have hallowed : (JournalCall.append frame, io).1.Allowed := hbuilt
  have hjournal := h.journal.step hallowed
  have hreaches := h.reaches
  have hcutoffs : (history.step (.append frame, io)).cutoffs = history.cutoffs := rfl
  have hstep : (history.step (.append frame, io)).journal =
      history.journal.step (.append frame, io) := rfl
  have hdurable := h.durable
  rw [JournalHistory.step_append] at hjournal hstep
  rcases history.journal.handle.append_cases frame io with ⟨error, -, heq⟩ |
    ⟨prepared, kind, -, -, heq⟩ | ⟨endOffset, decoded, written, kind, -, -, heq⟩ |
    ⟨endOffset, decoded, hchecks, -, heq⟩
  all_goals rw [heq] at hjournal hstep
  · exact h.same hstep hcutoffs
  · exact h.same hstep hcutoffs
  · refine ⟨?_, ?_, ?_, ?_⟩
    all_goals rw [hstep]
    · exact hjournal
    · exact h.positive
    · change history.journal.handle.journal.activeBytes.val ≤
        (history.journal.handle.journalFile ++ frame.bytes.take written).length
      rw [List.length_append]
      omega
    · rw [hcutoffs]
      exact hdurable
  · have htakes := ActiveJournal.prepareAppend_ok hchecks
    have hends := htakes.ends
    refine ⟨?_, ?_, ?_, ?_⟩
    all_goals rw [hstep]
    · exact hjournal
    · intro other hother
      rcases List.mem_append.mp hother with hold | hnew
      · exact h.positive other hold
      · rw [List.mem_singleton.mp hnew]
        exact htakes.positive
    · change endOffset.val ≤ (history.journal.handle.journalFile ++ frame.bytes).length
      rw [List.length_append]
      omega
    · rw [hcutoffs]
      exact hdurable

theorem Sound.syncPending (h : history.Sound identity sequenceFloor limits) :
    (history.step (.syncPending, .succeeds)).Sound identity sequenceFloor limits := by
  have hallowed : (JournalCall.syncPending, JournalIo.succeeds).1.Allowed := trivial
  have hjournal := h.journal.step hallowed
  obtain ⟨earlier, hcutoffs, hgeneration, himage⟩ := h.durable
  have hidentity := h.journal.sameIdentity
  have hstep : (history.step (.syncPending, .succeeds)).journal =
      history.journal.step (.syncPending, .succeeds) := rfl
  have hanswer : (history.step (.syncPending, .succeeds)).cutoffs =
      match (history.journal.handle.syncPending .succeeds).1 with
      | .ok cutoff =>
        if history.cutoffs.getLast? = some cutoff then history.cutoffs
        else history.cutoffs ++ [cutoff]
      | .error _ => history.cutoffs := by
    change (match JournalAnswer.synced (history.journal.handle.syncPending .succeeds).1 with
      | .synced (.ok cutoff) => _
      | _ => history.cutoffs) = _
    cases (history.journal.handle.syncPending .succeeds).1 with
    | error error => rfl
    | ok cutoff => rfl
  have hlast : history.cutoffs.getLast? = some (durableCutoffFromState identity
      history.journal.handle.journal.checkpointState) := by
    rw [hcutoffs, List.map_append, List.map_singleton, List.getLast?_concat]
  rw [JournalHistory.step_syncPending] at hjournal hstep
  cases hchecks : history.journal.handle.journal.prepareSync with
  | error error =>
    have heq : history.journal.handle.syncPending .succeeds =
        (.error (.refused error), history.journal.handle) := by
      unfold JournalHandle.syncPending
      rw [hchecks]
    rw [heq] at hstep hanswer
    exact h.same hstep hanswer
  | ok found =>
    cases found with
    | none =>
      have heq : history.journal.handle.syncPending .succeeds =
          (.ok history.journal.handle.journal.durableCutoff, history.journal.handle) := by
        unfold JournalHandle.syncPending
        rw [hchecks]
      rw [heq] at hstep hanswer
      refine h.same hstep (hanswer.trans ?_)
      apply if_pos
      rw [hlast, ← hidentity]
      rfl
    | some next =>
      have heq := JournalHandle.syncPending_adopts hchecks
      have husable := (ActiveJournal.prepareSync_some hchecks).1
      obtain ⟨hfollows, hanchored⟩ := h.journal.next h.positive hchecks
      rw [heq] at hjournal hstep hanswer
      refine ⟨?_, ?_, ?_, ?_⟩
      all_goals rw [hstep]
      · exact hjournal
      · exact h.positive
      · exact h.reaches
      · refine ⟨earlier ++ [history.journal.handle.journal.checkpointState], ?_, ?_, ?_⟩
        · have hne : history.cutoffs.getLast? ≠ some (durableCutoffFromState identity next) := by
            rw [hlast, Ne, Option.some.injEq]
            intro hsame
            have hsequence := congrArg DurableCutoff.appendSequence hsame
            have hlt := hfollows.sequence
            change history.journal.handle.journal.checkpointState.appendSequence =
              next.appendSequence at hsequence
            rw [hsequence] at hlt
            exact absurd hlt (lt_irrefl _)
          rw [hanswer, hidentity]
          dsimp only
          rw [if_neg hne, hcutoffs]
          simp only [List.map_append, List.map_cons, List.map_nil]
        · have hnext := hfollows.generation
          rw [List.length_append, List.length_singleton]
          dsimp only
          omega
        · rw [List.getLast?_concat, hidentity]
          exact himage.write hfollows hanchored

theorem Sound.step (h : history.Sound identity sequenceFloor limits)
    {next : JournalCall × JournalIo} (hallowed : next.1.Allowed)
    (hsync : next.1 = .syncPending → next.2 = .succeeds) :
    (history.step next).Sound identity sequenceFloor limits := by
  obtain ⟨call, io⟩ := next
  cases call with
  | append frame => exact h.append hallowed io
  | syncPending =>
    have hio : io = .succeeds := hsync rfl
    rw [hio]
    exact h.syncPending
  | nextAppendSequence => exact h.same rfl rfl
  | canFit frameLen => exact h.same rfl rfl

theorem Sound.run (h : history.Sound identity sequenceFloor limits)
    {calls : List (JournalCall × JournalIo)} (hallowed : ∀ next ∈ calls, next.1.Allowed)
    (hsync : ∀ next ∈ calls, next.1 = .syncPending → next.2 = .succeeds) :
    (history.run calls).Sound identity sequenceFloor limits := by
  induction calls generalizing history with
  | nil => exact h
  | cons next rest ih =>
    have hnext := h.step (hallowed next List.mem_cons_self) (hsync next List.mem_cons_self)
    refine ih hnext ?_ ?_
    · exact fun other hother => hallowed other (List.mem_cons_of_mem _ hother)
    · exact fun other hother => hsync other (List.mem_cons_of_mem _ hother)

end CheckpointHistory

theorem CheckpointHistory.Sound.endOffset_le {identity : JournalIdentity} {sequenceFloor : U64}
    {limits : ActiveJournalLimits} {history : CheckpointHistory}
    (h : history.Sound identity sequenceFloor limits) :
    history.journal.handle.journal.checkpointState.endOffset.val ≤
      history.journal.handle.journalFile.length := by
  obtain ⟨count, -, -, hcutoffEnd⟩ := h.journal.cutoff
  have hsplit := framesLen_split history.journal.frames count
  have hactive := h.journal.activeBytes
  have hreaches := h.reaches
  change history.journal.handle.journal.checkpointState.endOffset.val = _ at hcutoffEnd
  omega

/-- Whatever becomes of a synchronisation, the checkpoint that was current stays in its slot. -/
theorem CheckpointImage.syncPending {identity : JournalIdentity} {sequenceFloor : U64}
    {handle : JournalHandle} {prior : Option CheckpointState}
    (h : CheckpointImage identity sequenceFloor handle.checkpointFile prior
      handle.journal.checkpointState) (io : JournalIo) :
    checkpointSlot (handle.syncPending io).2.checkpointFile
      (checkpointSlotIndex handle.journal.checkpointState.slotGeneration) =
        encodeCheckpoint identity handle.journal.checkpointState := by
  unfold JournalHandle.syncPending
  cases hchecks : handle.journal.prepareSync with
  | error error => exact h.newest
  | ok found =>
    cases found with
    | none => exact h.newest
    | some next =>
      have hgeneration := (ActiveJournal.prepareSync_advances hchecks).1
      have hlen := length_encodeCheckpoint handle.journal.identity next
      have hkeeps : ∀ written, checkpointSlot (overwrite handle.checkpointFile
          (checkpointSlotIndex next.slotGeneration * checkpointSlotLen)
          ((encodeCheckpoint handle.journal.identity next).take written))
          (checkpointSlotIndex handle.journal.checkpointState.slotGeneration) =
          encodeCheckpoint identity handle.journal.checkpointState := by
        intro written
        apply h.overwrite_current hgeneration
        rw [List.length_take]
        omega
      have hwhole := hkeeps checkpointSlotLen
      rw [List.take_of_length_le (Nat.le_of_eq hlen)] at hwhole
      dsimp only
      cases io.syncJournal with
      | some kind => exact h.newest
      | none =>
        cases io.seek with
        | some kind => exact h.newest
        | none =>
          cases io.write with
          | some failure => exact hkeeps failure.1
          | none =>
            cases io.syncCheckpoint with
            | some kind => exact hwhole
            | none => exact hwhole

section Images

variable {identity : JournalIdentity} {sequenceFloor : U64} {journalLen : Nat}

theorem decodeCheckpointSlot_valid {bytes : Bytes} {slotIndex : Nat} {state : CheckpointState}
    (h : decodeCheckpointSlot bytes slotIndex identity sequenceFloor journalLen = .valid state) :
    state.slotGeneration ≠ 0 ∧ checkpointSlotIndex state.slotGeneration = slotIndex := by
  unfold decodeCheckpointSlot at h
  split at h
  next => cases h
  next =>
    split at h
    next => cases h
    next =>
      dsimp only at h
      split at h
      next => cases h
      next hfields =>
        cases h
        simp only [not_or, not_not] at hfields
        exact ⟨hfields.2.2.1, hfields.2.2.2.1⟩

theorem decodeCheckpointSlot_zero {bytes : Bytes} {slotIndex : Nat} :
    decodeCheckpointSlot bytes slotIndex identity sequenceFloor journalLen = .zero ↔
      bytes = zeros bytes.length := by
  constructor
  · intro h
    unfold decodeCheckpointSlot at h
    split at h
    next hzero => exact hzero
    next =>
      split at h
      next => cases h
      next =>
        dsimp only at h
        split at h
        next => cases h
        next => cases h
  · exact fun hzero => if_pos hzero

/-- The checkpoints of two slots have different generations, so the lesser one has a successor. -/
theorem slotGeneration_lt {first second : CheckpointState}
    (hne : checkpointSlotIndex first.slotGeneration ≠ checkpointSlotIndex second.slotGeneration) :
    min first.slotGeneration.val second.slotGeneration.val + 1 < 2 ^ 64 := by
  have hapart : first.slotGeneration.val ≠ second.slotGeneration.val := by
    intro hsame
    exact hne (congrArg checkpointSlotIndex (Fin.ext hsame))
  have hbound := first.slotGeneration.isLt
  have hbound' := second.slotGeneration.isLt
  omega

/-- A slot of a checkpoint file as the reader decodes it. -/
def slotAt (file : Bytes) (identity : JournalIdentity) (sequenceFloor : U64) (journalLen : Nat)
    (slotIndex : Nat) : SlotDecode :=
  decodeCheckpointSlot (checkpointSlot file slotIndex) slotIndex identity sequenceFloor journalLen

/-- What reading a checkpoint file of any content amounts to. -/
structure ReadsNewest (identity : JournalIdentity) (sequenceFloor : U64) (journalLen : Nat)
    (file : Bytes) : Prop where
  empty : readCheckpoint file identity sequenceFloor journalLen = .ok none ↔
    file = zeros checkpointFileLen
  accepted : ∀ state, readCheckpoint file identity sequenceFloor journalLen = .ok (some state) →
    (state.slotGeneration = 1 ∧ slotAt file identity sequenceFloor journalLen 0 = .valid state ∧
      checkpointSlot file 1 = zeros checkpointSlotLen) ∨
    ∃ older, state.Follows older ∧
      slotAt file identity sequenceFloor journalLen (checkpointSlotIndex state.slotGeneration) =
        .valid state ∧
      slotAt file identity sequenceFloor journalLen
        (1 - checkpointSlotIndex state.slotGeneration) = .valid older
  refused : ∀ slotIndex ≤ 1,
    slotAt file identity sequenceFloor journalLen slotIndex = .invalidNonzero →
      readCheckpoint file identity sequenceFloor journalLen = .error .invalidLayout
  bounded : ∀ first second, slotAt file identity sequenceFloor journalLen 0 = .valid first →
    slotAt file identity sequenceFloor journalLen 1 = .valid second →
      first.slotGeneration ≠ 0 ∧ second.slotGeneration ≠ 0 ∧
        min first.slotGeneration.val second.slotGeneration.val + 1 < 2 ^ 64

section Read

variable {file : Bytes}

theorem readCheckpoint_none (hfile : file.length = checkpointFileLen) :
    readCheckpoint file identity sequenceFloor journalLen = .ok none ↔
      file = zeros checkpointFileLen := by
  have hboth : file = checkpointSlot file 0 ++ checkpointSlot file 1 := by
    have hsplit := slice_add file 0 checkpointSlotLen checkpointSlotLen
    have hall : slice file 0 (checkpointSlotLen + checkpointSlotLen) = file := slice_all hfile
    rw [hall] at hsplit
    exact hsplit
  constructor
  · intro h
    unfold readCheckpoint at h
    split at h
    next hfirst hsecond =>
      have hzeros := decodeCheckpointSlot_zero.mp hfirst
      have hzeros' := decodeCheckpointSlot_zero.mp hsecond
      rw [length_slice (by rw [hfile]; decide)] at hzeros hzeros'
      change checkpointSlot file 0 = _ at hzeros
      change checkpointSlot file 1 = _ at hzeros'
      rw [hboth, hzeros, hzeros']
      rfl
    next => cases h
    next => cases h
    next =>
      rw [then_ok] at h
      cases h.2
    next =>
      rw [then_ok] at h
      cases h.2
    next =>
      dsimp only at h
      rw [then_ok] at h
      cases h.2
  · intro h
    rw [h]
    rfl

theorem readCheckpoint_some (hfile : file.length = checkpointFileLen) {state : CheckpointState}
    (h : readCheckpoint file identity sequenceFloor journalLen = .ok (some state)) :
    (state.slotGeneration = 1 ∧ slotAt file identity sequenceFloor journalLen 0 = .valid state ∧
      checkpointSlot file 1 = zeros checkpointSlotLen) ∨
    ∃ older, state.Follows older ∧
      slotAt file identity sequenceFloor journalLen (checkpointSlotIndex state.slotGeneration) =
        .valid state ∧
      slotAt file identity sequenceFloor journalLen
        (1 - checkpointSlotIndex state.slotGeneration) = .valid older := by
  unfold readCheckpoint at h
  split at h
  next => cases h
  next => cases h
  next => cases h
  next lone hfirst hsecond =>
    rw [then_ok, refuse_ok, not_not, pure_ok, Option.some.injEq] at h
    obtain ⟨hone, rfl⟩ := h
    have hzeros := decodeCheckpointSlot_zero.mp hsecond
    rw [length_slice (by rw [hfile]; decide)] at hzeros
    exact Or.inl ⟨hone, hfirst, hzeros⟩
  next lone hfirst hsecond =>
    -- the first generation has its place in the first slot
    rw [then_ok, refuse_ok, not_not] at h
    have hindex := (decodeCheckpointSlot_valid hsecond).2
    rw [h.1] at hindex
    cases hindex
  next first second hfirst hsecond =>
    have hfirstIndex := (decodeCheckpointSlot_valid hfirst).2
    have hsecondIndex := (decodeCheckpointSlot_valid hsecond).2
    refine Or.inr ?_
    split at h
    next older newer hordered =>
      rw [then_ok, refuse_ok, pure_ok, Option.some.injEq] at h
      obtain ⟨hprogress, rfl⟩ := h
      simp only [not_or, not_not, Fin.not_le] at hprogress
      have hfollows : newer.Follows older :=
        ⟨hprogress.1.symm, hprogress.2.1, hprogress.2.2⟩
      split at hordered
      next =>
        cases hordered
        refine ⟨_, hfollows, ?_, ?_⟩
        · rw [hsecondIndex]
          exact hsecond
        · rw [hsecondIndex]
          exact hfirst
      next =>
        cases hordered
        refine ⟨_, hfollows, ?_, ?_⟩
        · rw [hfirstIndex]
          exact hfirst
        · rw [hfirstIndex]
          exact hsecond

theorem readCheckpoint_invalid {slotIndex : Nat} (hindex : slotIndex ≤ 1)
    (h : slotAt file identity sequenceFloor journalLen slotIndex = .invalidNonzero) :
    readCheckpoint file identity sequenceFloor journalLen = .error .invalidLayout := by
  have hfirst : decodeCheckpointSlot (slice file 0 checkpointSlotLen) 0 identity sequenceFloor
      journalLen = slotAt file identity sequenceFloor journalLen 0 := rfl
  have hsecond : decodeCheckpointSlot (slice file checkpointSlotLen checkpointSlotLen) 1 identity
      sequenceFloor journalLen = slotAt file identity sequenceFloor journalLen 1 := rfl
  unfold readCheckpoint
  rw [hfirst, hsecond]
  rcases Nat.le_one_iff_eq_zero_or_eq_one.mp hindex with hzero | hone
  · rw [hzero] at h
    rw [h]
  · rw [hone] at h
    rw [h]
    cases slotAt file identity sequenceFloor journalLen 0 with
    | zero => rfl
    | valid state => rfl
    | invalidNonzero => rfl

theorem readsNewest (identity : JournalIdentity) (sequenceFloor : U64) (journalLen : Nat)
    (hfile : file.length = checkpointFileLen) :
    ReadsNewest identity sequenceFloor journalLen file where
  empty := readCheckpoint_none hfile
  accepted := fun _ => readCheckpoint_some hfile
  refused := fun _ => readCheckpoint_invalid
  bounded := by
    intro first second hfirst hsecond
    obtain ⟨hne, hindex⟩ := decodeCheckpointSlot_valid hfirst
    obtain ⟨hne', hindex'⟩ := decodeCheckpointSlot_valid hsecond
    refine ⟨hne, hne', slotGeneration_lt ?_⟩
    rw [hindex, hindex']
    decide

end Read

end Images

/-- After any number of synchronisations that the file system does not fail, whatever appends stand
between them: the checkpoint file is read as the newest cutoff that was answered, under the slot
generation that counts the cutoffs, the other slot holds the cutoff before it, and the next write,
in whole or in part, is to that other slot. A checkpoint file of any content is read as the newer
of two consecutive checkpoints or as a lone first one, never past a slot that is not valid. -/
theorem checkpoint_two_slots (identity : JournalIdentity) (sequenceFloor : U64)
    (limits : ActiveJournalLimits) (calls : List (JournalCall × JournalIo))
    (hallowed : ∀ next ∈ calls, next.1.Allowed)
    (hsync : ∀ next ∈ calls, next.1 = .syncPending → next.2 = .succeeds) :
    let history := (CheckpointHistory.created identity sequenceFloor limits).run calls
    let handle := history.journal.handle
    (∃ earlier current,
      history.cutoffs = (earlier ++ [current]).map (durableCutoffFromState identity) ∧
      current.slotGeneration.val = history.cutoffs.length ∧
      readCheckpoint handle.checkpointFile identity sequenceFloor handle.journalFile.length =
        .ok (some current) ∧
      checkpointSlot handle.checkpointFile (checkpointSlotIndex current.slotGeneration) =
        encodeCheckpoint identity current ∧
      (checkpointSlot handle.checkpointFile (1 - checkpointSlotIndex current.slotGeneration) =
        match earlier.getLast? with
        | none => zeros checkpointSlotLen
        | some before => encodeCheckpoint identity before) ∧
      (∀ next, handle.journal.prepareSync = .ok (some next) → next.slotGeneration ≠ 0 ∧
        checkpointSlotIndex next.slotGeneration = 1 - checkpointSlotIndex current.slotGeneration) ∧
      ∀ io, checkpointSlot (handle.syncPending io).2.checkpointFile
        (checkpointSlotIndex current.slotGeneration) = encodeCheckpoint identity current) ∧
    ∀ identity sequenceFloor journalLen file, file.length = checkpointFileLen →
      ReadsNewest identity sequenceFloor journalLen file := by
  intro history handle
  have h := (CheckpointHistory.Sound.created identity sequenceFloor limits).run hallowed hsync
  obtain ⟨earlier, hcutoffs, hgeneration, himage⟩ := h.durable
  refine ⟨⟨earlier, handle.journal.checkpointState, hcutoffs, ?_, ?_, himage.newest, himage.older,
    ?_, ?_⟩, ?_⟩
  · have hlen := congrArg List.length hcutoffs
    rw [List.length_map, List.length_append, List.length_singleton] at hlen
    exact hgeneration.trans hlen.symm
  · exact himage.read h.endOffset_le
  · intro next hnext
    have hadvances := (ActiveJournal.prepareSync_advances hnext).1
    refine ⟨?_, checkpointSlotIndex_next himage.slotGeneration_ne_zero hadvances⟩
    intro hzero
    rw [hzero] at hadvances
    exact absurd hadvances (Nat.succ_ne_zero _)
  · exact fun io => himage.syncPending io
  · exact fun identity sequenceFloor journalLen _ hfile =>
      readsNewest identity sequenceFloor journalLen hfile

theorem secondSequence_positive : 0 < (2 : U64).val := by decide

theorem thirdSequence_positive : 0 < (3 : U64).val := by decide

/-- One frame is made durable, then two at once. The last synchronisation finds nothing to do. -/
def sampleSyncs (first second third : PreparedFrameV1) : List (JournalCall × JournalIo) :=
  [(.append first, .succeeds), (.syncPending, .succeeds), (.append second, .succeeds),
    (.append third, .succeeds), (.syncPending, .succeeds), (.syncPending, .succeeds)]

theorem sampleSyncs_run : (sampleFrame.toOption.any fun first =>
    (sampleFrameAt ⟨2, secondSequence_positive⟩).toOption.any fun second =>
      (sampleFrameAt ⟨3, thirdSequence_positive⟩).toOption.any fun third => decide
        (((CheckpointHistory.created sampleJournalIdentity 0 sampleJournalLimits).run
          (sampleSyncs first second third)).cutoffs.map (·.appendSequence) =
            [0, 1, 3])) = true := by
  decide +kernel

/-- The third cutoff takes the slot of the first one and leaves that of the second. -/
theorem checkpoint_two_slots_sample : ∃ calls earlier current before,
    let history := (CheckpointHistory.created sampleJournalIdentity 0 sampleJournalLimits).run calls
    let file := history.journal.handle.checkpointFile
    history.cutoffs.map (·.appendSequence) = [0, 1, 3] ∧
      history.cutoffs = (earlier ++ [current]).map (durableCutoffFromState sampleJournalIdentity) ∧
      current.slotGeneration.val = 3 ∧ earlier.getLast? = some before ∧
      readCheckpoint file sampleJournalIdentity 0 history.journal.handle.journalFile.length =
        .ok (some current) ∧
      checkpointSlot file (checkpointSlotIndex 1) =
        encodeCheckpoint sampleJournalIdentity current ∧
      checkpointSlot file (checkpointSlotIndex 2) =
        encodeCheckpoint sampleJournalIdentity before := by
  obtain ⟨first, hfirst, hruns⟩ := exists_ok_any sampleSyncs_run
  obtain ⟨second, hsecond, hruns⟩ := exists_ok_any hruns
  obtain ⟨third, hthird, hruns⟩ := exists_ok_any hruns
  have hsequences := of_decide_eq_true hruns
  have hframes : first.Built ∧ second.Built ∧ third.Built :=
    ⟨sampleFrame_built hfirst, sampleFrameAt_built hsecond, sampleFrameAt_built hthird⟩
  have hallowed : ∀ next ∈ sampleSyncs first second third, next.1.Allowed := by
    simp [sampleSyncs, JournalCall.Allowed, hframes]
  have hsync : ∀ next ∈ sampleSyncs first second third,
      next.1 = .syncPending → next.2 = .succeeds := by
    simp [sampleSyncs]
  obtain ⟨⟨earlier, current, hcutoffs, hgeneration, hread, hnewest, holder, -⟩, -⟩ :=
    checkpoint_two_slots sampleJournalIdentity 0 sampleJournalLimits _ hallowed hsync
  have hcount : current.slotGeneration.val = 3 := by
    rw [hgeneration, ← List.length_map (·.appendSequence), hsequences]
    rfl
  have hslot : current.slotGeneration = 3 := Fin.ext hcount
  rw [hslot] at hnewest holder
  cases hlast : earlier.getLast? with
  | none =>
    have hlength := congrArg List.length hsequences
    rw [hcutoffs, List.getLast?_eq_none_iff.mp hlast] at hlength
    cases hlength
  | some before =>
    rw [hlast] at holder
    exact ⟨_, earlier, current, before, hsequences, hcutoffs, hcount, hlast, hread, hnewest, holder⟩

end Historian
