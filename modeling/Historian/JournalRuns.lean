import Historian.ActiveRoot
import Historian.JournalHandle
import Historian.StoreRun

namespace Historian

open Wire Checks Files

/-- A frame carries its sequence in its bytes. -/
theorem PreparedFrameV1.Built.sequence {frame : PreparedFrameV1} (h : frame.Built)
    {limits : DecodeLimitsV1} {previous : Option AppendSequenceV1} {decoded : DecodedAdmissionV1}
    (hdecode : decodeAdmissionFrameV1 frame.bytes limits previous = .ok decoded) :
    decoded.appendSequence = frame.appendSequence.value := by
  obtain ⟨admission, prepared, -, -, hframe⟩ := h
  obtain ⟨sequence, hsequence, hread, -⟩ := sequence_of_decode hdecode
  rw [hsequence, ← hread]
  unfold PreparedAdmissionV1.intoFrame frameBytes at hframe
  split at hframe
  next => cases hframe
  next bytes hbytes =>
    rw [then_ok, refuse_ok, Nat.not_lt, pure_ok] at hbytes
    obtain ⟨hmaximum, hsealed⟩ := hbytes
    have h32 : prepared.payload.length < 2 ^ 32 := by
      simp only [maxAdmissionPayloadV1] at hmaximum
      omega
    split at hframe
    next =>
      rw [Except.ok.injEq] at hframe
      rw [← hframe, ← hsealed]
      change u64At (Historian.frame frame.appendSequence.value prepared.payload) 8 = _
      rw [frame_eq]
      exact (slices_of_framePrefix frame.appendSequence.value _ h32).2.2.2.2.1
    next => cases hframe

section Checks

variable {journal : ActiveJournal}

theorem ActiveJournal.ensureUsable_ok :
    journal.ensureUsable = .ok () ↔ journal.writeState = .writable := by
  unfold ActiveJournal.ensureUsable
  cases journal.writeState with
  | writable => simp
  | reopenRequired => simp
  | faulted => simp

theorem ActiveJournal.nextAppendSequence_ok {next : AppendSequenceV1} :
    journal.nextAppendSequence = .ok next ↔
      journal.writeState = .writable ∧
        journal.lastAppendSequence.val + 1 = next.value.val := by
  unfold ActiveJournal.nextAppendSequence
  rw [then_ok, ActiveJournal.ensureUsable_ok]
  refine and_congr_right fun _ => ?_
  cases hadd : checkedAdd journal.lastAppendSequence 1 with
  | none =>
    simp only [reduceCtorEq, false_iff]
    intro hnext
    rw [checkedAdd_eq_some.mpr hnext] at hadd
    cases hadd
  | some found =>
    have hfound := checkedAdd_eq_some.mp hadd
    simp only [mapError_ok, AppendSequenceV1.new_ok]
    rw [hfound, Fin.ext_iff]

/-- What a frame and a journal have to do with each other when the checks of an append pass. -/
structure ActiveJournal.Takes (journal : ActiveJournal) (frame : PreparedFrameV1)
    (endOffset : U64) (decoded : DecodedAdmissionV1) : Prop where
  usable : journal.writeState = .writable
  follows : journal.lastAppendSequence.val + 1 = frame.appendSequence.value.val
  decodes : ∃ previous, decodeAdmissionFrameV1 frame.bytes journal.limits.decode previous =
    .ok decoded
  ends : journal.activeBytes.val + frame.bytes.length = endOffset.val
  fits : journal.canFit frame.bytes.length = true

theorem ActiveJournal.prepareAppend_ok {frame : PreparedFrameV1} {endOffset : U64}
    {decoded : DecodedAdmissionV1} (h : journal.prepareAppend frame = .ok (endOffset, decoded)) :
    journal.Takes frame endOffset decoded := by
  unfold ActiveJournal.prepareAppend at h
  simp only [bind_ok, exists_unit, refuse_ok, mapError_ok, pure_ok, not_not, not_or, Nat.not_lt,
    Nat.not_le, Prod.mk.injEq] at h
  obtain ⟨-, next, hnext, hsame, previous, -, found, hdecode, -, last, hlast, ⟨hbytes, hrecords⟩,
    rfl, rfl⟩ := h
  obtain ⟨husable, hfollows⟩ := ActiveJournal.nextAppendSequence_ok.mp hnext
  split at hlast
  next offset hadd =>
    rw [Except.ok.injEq] at hlast
    subst hlast
    have hend := checkedAdd_eq_some.mp hadd
    refine ⟨husable, ?_, ⟨previous, hdecode⟩, hend, ?_⟩
    · rw [hsame]
      exact hfollows
    · unfold ActiveJournal.canFit
      exact decide_eq_true ⟨hrecords, by omega⟩
  next => cases hlast

/-- A synchronisation prepares the checkpoint that was announced. -/
theorem ActiveJournal.prepareSync_announced :
    journal.pendingDurableCutoff = journal.prepareSync.map fun found =>
      match found with
      | none => journal.durableCutoff
      | some next => durableCutoffFromState journal.identity next := by
  unfold ActiveJournal.pendingDurableCutoff ActiveJournal.prepareSync
  cases journal.ensureUsable with
  | error e => rfl
  | ok =>
    by_cases hdurable : journal.lastAppendSequence = journal.checkpointState.appendSequence ∧
        journal.activeBytes = journal.checkpointState.endOffset
    · change (if _ then _ else _) = Except.map _ (if _ then _ else _)
      rw [if_pos hdurable, if_pos hdurable]
      rfl
    · change (if _ then _ else _) = Except.map _ (if _ then _ else _)
      rw [if_neg hdurable, if_neg hdurable]
      cases journal.pendingCheckpointState journal.lastAppendSequence with
      | error e => rfl
      | ok next => rfl

theorem ActiveJournal.prepareSync_some {next : CheckpointState}
    (h : journal.prepareSync = .ok (some next)) :
    journal.writeState = .writable ∧ next.appendSequence = journal.lastAppendSequence ∧
      next.endOffset = journal.activeBytes := by
  unfold ActiveJournal.prepareSync at h
  rw [then_ok, ActiveJournal.ensureUsable_ok] at h
  obtain ⟨husable, h⟩ := h
  split at h
  next => cases h
  next =>
    simp only [bind_ok, pure_ok, Option.some.injEq] at h
    obtain ⟨found, hfound, rfl⟩ := h
    unfold ActiveJournal.pendingCheckpointState at hfound
    split at hfound
    next => cases hfound
    next =>
      cases hfound
      exact ⟨husable, rfl, rfl⟩

end Checks

/-- A handle with the frames whose appends it has answered with success. -/
structure JournalHistory where
  handle : JournalHandle
  frames : List PreparedFrameV1

namespace JournalHistory

def created (identity : JournalIdentity) (sequenceFloor : U64) (limits : ActiveJournalLimits) :
    JournalHistory :=
  ⟨.create identity sequenceFloor limits, []⟩

def step (history : JournalHistory) (next : JournalCall × JournalIo) : JournalHistory :=
  let (answer, after) := history.handle.call next.2 next.1
  match next.1, answer with
  | .append frame, .appended (.ok _) => ⟨after, history.frames ++ [frame]⟩
  | _, _ => ⟨after, history.frames⟩

def run (history : JournalHistory) (calls : List (JournalCall × JournalIo)) : JournalHistory :=
  calls.foldl step history

end JournalHistory

/-- The bytes of a sequence of frames. -/
def framesLen (frames : List PreparedFrameV1) : Nat :=
  (frames.map fun frame => frame.bytes.length).sum

/-- Only a frame has to be one that a caller can hold. -/
def JournalCall.Allowed : JournalCall → Prop
  | .append frame => frame.Built
  | _ => True

/-- What a journal and its frames are to each other in every state. -/
structure JournalHistory.Sound (identity : JournalIdentity) (sequenceFloor : U64)
    (limits : ActiveJournalLimits) (history : JournalHistory) : Prop where
  sameIdentity : history.handle.journal.identity = identity
  sameLimits : history.handle.journal.limits = limits
  fileLen : history.handle.journal.writeState = .writable →
    history.handle.journalFile.length = journalV1HeaderLen + framesLen history.frames
  fileLimit : history.handle.journalFile.length ≤ limits.activeBytes
  activeBytes : history.handle.journal.activeBytes.val =
    journalV1HeaderLen + framesLen history.frames
  bytesLimit : history.handle.journal.activeBytes.val ≤ limits.activeBytes
  records : history.handle.journal.records.length = history.frames.length
  recordLimit : history.handle.journal.records.length ≤ limits.recordLimit
  sequence : history.handle.journal.lastAppendSequence.val =
    sequenceFloor.val + history.frames.length
  cutoff : ∃ count ≤ history.frames.length,
    history.handle.journal.durableCutoff.appendSequence.val = sequenceFloor.val + count ∧
      history.handle.journal.durableCutoff.endOffset.val =
        journalV1HeaderLen + framesLen (history.frames.take count)

section Steps

variable {handle : JournalHandle} {io : JournalIo}

theorem framesLen_append (frames : List PreparedFrameV1) (frame : PreparedFrameV1) :
    framesLen (frames ++ [frame]) = framesLen frames + frame.bytes.length := by
  simp [framesLen]

/-- The four ways that an append ends: its checks refuse, the seek fails, the write fails with a
part of the frame in the file, or the frame is there. -/
theorem JournalHandle.append_cases (handle : JournalHandle) (frame : PreparedFrameV1)
    (io : JournalIo) :
    (∃ error, handle.journal.prepareAppend frame = .error error ∧
      handle.append frame io = (.error (.refused error), handle)) ∨
    (∃ prepared kind, handle.journal.prepareAppend frame = .ok prepared ∧ io.seek = some kind ∧
      handle.append frame io = (.error (classifyIo .seek kind), handle)) ∨
    (∃ endOffset decoded written kind,
      handle.journal.prepareAppend frame = .ok (endOffset, decoded) ∧ io.seek = none ∧
        handle.append frame io = ({ handle with
          journalFile := handle.journalFile ++ frame.bytes.take written } : JournalHandle).failed
          .write kind) ∨
    ∃ endOffset decoded, handle.journal.prepareAppend frame = .ok (endOffset, decoded) ∧
      io.seek = none ∧ handle.append frame io = (.ok endOffset, { handle with
        journalFile := handle.journalFile ++ frame.bytes
        journal := handle.journal.pushed endOffset decoded }) := by
  unfold JournalHandle.append
  cases hchecks : handle.journal.prepareAppend frame with
  | error error => exact Or.inl ⟨error, rfl, rfl⟩
  | ok prepared =>
    obtain ⟨endOffset, decoded⟩ := prepared
    cases hseek : io.seek with
    | some kind => exact Or.inr (Or.inl ⟨_, kind, rfl, rfl, rfl⟩)
    | none =>
      cases hwrite : io.write with
      | some failure =>
        obtain ⟨written, kind⟩ := failure
        exact Or.inr (Or.inr (Or.inl ⟨endOffset, decoded, written, kind, rfl, rfl, rfl⟩))
      | none => exact Or.inr (Or.inr (Or.inr ⟨endOffset, decoded, rfl, rfl, rfl⟩))

/-- The four ways that a synchronisation ends: its checks refuse, there is nothing to make durable,
a step fails, or the next checkpoint is adopted. -/
theorem JournalHandle.syncPending_cases (handle : JournalHandle) (io : JournalIo) :
    (∃ error, handle.journal.prepareSync = .error error ∧
      handle.syncPending io = (.error (.refused error), handle)) ∨
    (handle.journal.prepareSync = .ok none ∧
      handle.syncPending io = (.ok handle.journal.durableCutoff, handle)) ∨
    (∃ next operation kind file, handle.journal.prepareSync = .ok (some next) ∧
      handle.syncPending io = ({ handle with checkpointFile := file } : JournalHandle).failed
        operation kind) ∨
    ∃ next, handle.journal.prepareSync = .ok (some next) ∧
      handle.syncPending io = (.ok (durableCutoffFromState handle.journal.identity next),
        { handle with
          checkpointFile := writeCheckpointSlot handle.checkpointFile handle.journal.identity next
          journal := { handle.journal with checkpointState := next }
          syncCount := saturatingSucc handle.syncCount }) := by
  unfold JournalHandle.syncPending
  cases hchecks : handle.journal.prepareSync with
  | error error => exact Or.inl ⟨error, rfl, rfl⟩
  | ok found =>
    cases found with
    | none => exact Or.inr (Or.inl ⟨rfl, rfl⟩)
    | some next =>
      refine Or.inr (Or.inr ?_)
      dsimp only
      cases io.syncJournal with
      | some kind => exact Or.inl ⟨next, _, kind, _, rfl, rfl⟩
      | none =>
        cases io.seek with
        | some kind => exact Or.inl ⟨next, _, kind, _, rfl, rfl⟩
        | none =>
          cases io.write with
          | some failure => exact Or.inl ⟨next, _, failure.2, _, rfl, rfl⟩
          | none =>
            cases io.syncCheckpoint with
            | some kind => exact Or.inl ⟨next, _, kind, _, rfl, rfl⟩
            | none =>
              rw [overwrite_checkpoint]
              exact Or.inr ⟨next, rfl, rfl⟩

end Steps

namespace JournalHistory

variable {identity : JournalIdentity} {sequenceFloor : U64} {limits : ActiveJournalLimits}
  {history : JournalHistory}

theorem Sound.created (identity : JournalIdentity) (sequenceFloor : U64)
    (limits : ActiveJournalLimits) :
    (created identity sequenceFloor limits).Sound identity sequenceFloor limits where
  sameIdentity := rfl
  sameLimits := rfl
  fileLen := fun _ => length_encodeHeader _
  fileLimit := by
    change (encodeHeader identity.storeId).length ≤ _
    rw [length_encodeHeader]
    exact limits.header_le
  activeBytes := rfl
  bytesLimit := limits.header_le
  records := rfl
  recordLimit := Nat.zero_le _
  sequence := rfl
  cutoff := ⟨0, Nat.le_refl _, rfl, rfl⟩

theorem lastAppendSequence_pushed (journal : ActiveJournal) (endOffset : U64)
    (decoded : DecodedAdmissionV1) :
    (journal.pushed endOffset decoded).lastAppendSequence = decoded.appendSequence := by
  unfold ActiveJournal.lastAppendSequence lastSequence ActiveJournal.pushed
  rw [List.getLast?_concat]

/-- One more frame. -/
theorem Sound.pushed (h : history.Sound identity sequenceFloor limits) {frame : PreparedFrameV1}
    (hbuilt : frame.Built) {endOffset : U64} {decoded : DecodedAdmissionV1}
    (htakes : history.handle.journal.Takes frame endOffset decoded) :
    (⟨{ history.handle with
        journalFile := history.handle.journalFile ++ frame.bytes
        journal := history.handle.journal.pushed endOffset decoded }, history.frames ++ [frame]⟩ :
      JournalHistory).Sound identity sequenceFloor limits := by
  obtain ⟨previous, hdecode⟩ := htakes.decodes
  have hnumber := hbuilt.sequence hdecode
  have hfollows := htakes.follows
  have hends := htakes.ends
  have hfits := of_decide_eq_true htakes.fits
  rw [h.sameLimits] at hfits
  have hfile := h.fileLen htakes.usable
  have hbytes := h.activeBytes
  have hsequence := h.sequence
  have hlen := framesLen_append history.frames frame
  obtain ⟨count, hcount, hcutoffSequence, hcutoffEnd⟩ := h.cutoff
  constructor
  case sameIdentity => exact h.sameIdentity
  case sameLimits => exact h.sameLimits
  case fileLen =>
    intro _
    dsimp only
    rw [List.length_append]
    omega
  case fileLimit =>
    dsimp only
    rw [List.length_append]
    omega
  case activeBytes =>
    change endOffset.val = _
    dsimp only
    omega
  case bytesLimit =>
    change endOffset.val ≤ _
    omega
  case records =>
    change (history.handle.journal.records ++ [_]).length = _
    rw [List.length_append, List.length_append, h.records]
    rfl
  case recordLimit =>
    change (history.handle.journal.records ++ [_]).length ≤ _
    rw [List.length_append, List.length_singleton]
    omega
  case sequence =>
    dsimp only
    rw [lastAppendSequence_pushed, hnumber, List.length_append, List.length_singleton]
    omega
  case cutoff =>
    refine ⟨count, ?_, hcutoffSequence, ?_⟩
    · rw [List.length_append]
      omega
    · rw [List.take_append_of_le_length hcount]
      exact hcutoffEnd

/-- A failure leaves the journal as it was, but for its state, and at most a part of a frame. -/
theorem Sound.failed (h : history.Sound identity sequenceFloor limits) (handle : JournalHandle)
    (hjournal : handle.journal = history.handle.journal)
    (hfile : handle.journalFile.length ≤ limits.activeBytes) (error : JournalHandleError) :
    (⟨handle.recordMutationError error, history.frames⟩ : JournalHistory).Sound identity
      sequenceFloor limits := by
  have hstate : (handle.recordMutationError error).journal.writeState ≠ .writable := by
    unfold JournalHandle.recordMutationError
    cases error with
    | refused => simp
    | io => simp
    | storagePressure => simp
  have hsame : (handle.recordMutationError error).journal = { history.handle.journal with
      writeState := (handle.recordMutationError error).journal.writeState } := by
    rw [← hjournal]
    rfl
  constructor
  case fileLen => exact fun husable => absurd husable hstate
  case fileLimit => exact hfile
  all_goals
    dsimp only
    rw [hsame]
  case sameIdentity => exact h.sameIdentity
  case sameLimits => exact h.sameLimits
  case activeBytes => exact h.activeBytes
  case bytesLimit => exact h.bytesLimit
  case records => exact h.records
  case recordLimit => exact h.recordLimit
  case sequence => exact h.sequence
  case cutoff => exact h.cutoff

/-- The checkpoint that a synchronisation adopts is the end of the journal. -/
theorem Sound.synced (h : history.Sound identity sequenceFloor limits) {next : CheckpointState}
    (hnext : history.handle.journal.prepareSync = .ok (some next)) (file : Bytes) (count : U64) :
    (⟨{ history.handle with
        checkpointFile := file
        journal := { history.handle.journal with checkpointState := next }
        syncCount := count }, history.frames⟩ : JournalHistory).Sound identity sequenceFloor
      limits := by
  obtain ⟨husable, hsequence, hend⟩ := ActiveJournal.prepareSync_some hnext
  have hlast : ({ history.handle.journal with checkpointState := next } :
      ActiveJournal).lastAppendSequence = history.handle.journal.lastAppendSequence := by
    change lastSequence next.appendSequence history.handle.journal.records = _
    rw [hsequence]
    unfold ActiveJournal.lastAppendSequence lastSequence
    cases history.handle.journal.records.getLast? with
    | none => rfl
    | some record => rfl
  constructor
  case sameIdentity => exact h.sameIdentity
  case sameLimits => exact h.sameLimits
  case fileLen => exact h.fileLen
  case fileLimit => exact h.fileLimit
  case activeBytes => exact h.activeBytes
  case bytesLimit => exact h.bytesLimit
  case records => exact h.records
  case recordLimit => exact h.recordLimit
  case sequence =>
    dsimp only
    rw [hlast]
    exact h.sequence
  case cutoff =>
    refine ⟨history.frames.length, Nat.le_refl _, ?_, ?_⟩
    · change next.appendSequence.val = _
      rw [hsequence]
      exact h.sequence
    · change next.endOffset.val = _
      rw [hend, List.take_length]
      exact h.activeBytes

theorem step_append (history : JournalHistory) (frame : PreparedFrameV1) (io : JournalIo) :
    history.step (.append frame, io) = ⟨(history.handle.append frame io).2,
      match (history.handle.append frame io).1 with
      | .ok _ => history.frames ++ [frame]
      | .error _ => history.frames⟩ := by
  unfold JournalHistory.step JournalHandle.call
  dsimp only
  cases (history.handle.append frame io).1 with
  | error e => rfl
  | ok endOffset => rfl

theorem step_syncPending (history : JournalHistory) (io : JournalIo) :
    history.step (.syncPending, io) = ⟨(history.handle.syncPending io).2, history.frames⟩ := rfl

theorem step_handle (history : JournalHistory) (next : JournalCall × JournalIo) :
    (history.step next).handle = (history.handle.call next.2 next.1).2 := by
  obtain ⟨call, io⟩ := next
  cases call with
  | append frame =>
    rw [step_append]
    rfl
  | syncPending => rfl
  | nextAppendSequence => rfl
  | canFit frameLen => rfl

theorem Sound.step (h : history.Sound identity sequenceFloor limits)
    {next : JournalCall × JournalIo} (hallowed : next.1.Allowed) :
    (history.step next).Sound identity sequenceFloor limits := by
  obtain ⟨call, io⟩ := next
  cases call with
  | append frame =>
    rw [step_append]
    rcases history.handle.append_cases frame io with ⟨error, -, heq⟩ | ⟨prepared, kind, -, -, heq⟩ |
      ⟨endOffset, decoded, written, kind, hchecks, -, heq⟩ | ⟨endOffset, decoded, hchecks, -, heq⟩
    · rw [heq]
      exact h
    · rw [heq]
      exact h
    · rw [heq]
      have htakes := ActiveJournal.prepareAppend_ok hchecks
      have hfits := of_decide_eq_true htakes.fits
      rw [h.sameLimits] at hfits
      have hfile := h.fileLen htakes.usable
      have hbytes := h.activeBytes
      refine h.failed { history.handle with
        journalFile := history.handle.journalFile ++ frame.bytes.take written } rfl ?_ _
      change (history.handle.journalFile ++ frame.bytes.take written).length ≤ _
      rw [List.length_append, List.length_take]
      omega
    · rw [heq]
      exact h.pushed hallowed (ActiveJournal.prepareAppend_ok hchecks)
  | syncPending =>
    rw [step_syncPending]
    rcases history.handle.syncPending_cases io with ⟨error, -, heq⟩ | ⟨-, heq⟩ |
      ⟨next, operation, kind, file, -, heq⟩ | ⟨next, hchecks, heq⟩
    · rw [heq]
      exact h
    · rw [heq]
      exact h
    · rw [heq]
      exact h.failed { history.handle with checkpointFile := file } rfl h.fileLimit _
    · rw [heq]
      exact h.synced hchecks _ _
  | nextAppendSequence => exact h
  | canFit frameLen => exact h

theorem Sound.run (h : history.Sound identity sequenceFloor limits)
    {calls : List (JournalCall × JournalIo)} (hallowed : ∀ next ∈ calls, next.1.Allowed) :
    (history.run calls).Sound identity sequenceFloor limits := by
  induction calls generalizing history with
  | nil => exact h
  | cons next rest ih =>
    have hnext := h.step (hallowed next List.mem_cons_self)
    exact ih hnext fun other hother => hallowed other (List.mem_cons_of_mem _ hother)

end JournalHistory

/-- The call reaches a step that changes bytes or makes them durable. -/
def JournalHandle.Mutates (handle : JournalHandle) (io : JournalIo) : JournalCall → Prop
  | .append frame =>
    (∃ prepared, handle.journal.prepareAppend frame = .ok prepared) ∧ io.seek = none
  | .syncPending => ∃ next, handle.journal.prepareSync = .ok (some next)
  | _ => False

/-- The answer of a method that takes part in writing, when it is not a success. -/
def JournalAnswer.Fails : JournalAnswer → Prop
  | .appended result => ∃ error, result = .error error
  | .synced result => ∃ error, result = .error error
  | .sequence result => ∃ error, result = .error error
  | .fits _ => False

/-- What one call does to a handle in any state. -/
structure JournalHandle.Answers (handle : JournalHandle) (io : JournalIo) (call : JournalCall) :
    Prop where
  cutoff : (handle.call io call).2.journal.durableCutoff ≠ handle.journal.durableCutoff →
    call = .syncPending ∧ (handle.call io call).1 =
      .synced (.ok (handle.call io call).2.journal.durableCutoff)
  announced : ∀ cutoff, (handle.call io call).1 = .synced (.ok cutoff) →
    handle.journal.pendingDurableCutoff = .ok cutoff ∧
      (handle.call io call).2.journal.durableCutoff = cutoff
  refused : ¬handle.Mutates io call → (handle.call io call).2 = handle
  poisoned : handle.Mutates io call → (handle.call io call).1.Fails →
    (handle.call io call).2.journal.writeState ≠ .writable
  stopped : handle.journal.writeState ≠ .writable → (handle.call io call).2 = handle ∧
    ((∃ frameLen, call = .canFit frameLen) ∨ (handle.call io call).1.Fails)

section Answers

variable {handle : JournalHandle} {io : JournalIo}

theorem writeState_recordMutationError (handle : JournalHandle) (error : JournalHandleError) :
    (handle.recordMutationError error).journal.writeState ≠ .writable := by
  unfold JournalHandle.recordMutationError
  cases error with
  | refused => simp
  | io => simp
  | storagePressure => simp

theorem prepareAppend_unusable (h : handle.journal.writeState ≠ .writable)
    (frame : PreparedFrameV1) : ∃ error, handle.journal.prepareAppend frame = .error error := by
  cases hchecks : handle.journal.prepareAppend frame with
  | error error => exact ⟨error, rfl⟩
  | ok prepared => exact absurd (ActiveJournal.prepareAppend_ok hchecks).usable h

theorem prepareSync_unusable (h : handle.journal.writeState ≠ .writable) :
    ∃ error, handle.journal.prepareSync = .error error := by
  unfold ActiveJournal.prepareSync ActiveJournal.ensureUsable
  cases hstate : handle.journal.writeState with
  | writable => exact absurd hstate h
  | reopenRequired => exact ⟨_, rfl⟩
  | faulted => exact ⟨_, rfl⟩

theorem JournalHandle.answers_append (handle : JournalHandle) (io : JournalIo)
    (frame : PreparedFrameV1) : handle.Answers io (.append frame) := by
  have hcall : handle.call io (.append frame) =
    (.appended (handle.append frame io).1, (handle.append frame io).2) := rfl
  have hcases := handle.append_cases frame io
  have hcutoff : (handle.append frame io).2.journal.durableCutoff =
      handle.journal.durableCutoff := by
    rcases hcases with ⟨error, -, heq⟩ | ⟨prepared, kind, -, -, heq⟩ |
      ⟨endOffset, decoded, written, kind, -, -, heq⟩ | ⟨endOffset, decoded, -, -, heq⟩
    · rw [heq]
    · rw [heq]
    · rw [heq]
      rfl
    · rw [heq]
      rfl
  constructor
  case cutoff => exact fun hne => absurd hcutoff hne
  case announced =>
    intro cutoff h
    cases h
  case refused =>
    intro hquiet
    rw [hcall]
    rcases hcases with ⟨error, -, heq⟩ | ⟨prepared, kind, -, -, heq⟩ |
      ⟨endOffset, decoded, written, kind, hchecks, hseek, heq⟩ |
      ⟨endOffset, decoded, hchecks, hseek, heq⟩
    · rw [heq]
    · rw [heq]
    · exact absurd ⟨⟨_, hchecks⟩, hseek⟩ hquiet
    · exact absurd ⟨⟨_, hchecks⟩, hseek⟩ hquiet
  case poisoned =>
    rintro ⟨⟨prepared, hprepared⟩, hnone⟩ hfails
    rw [hcall] at hfails ⊢
    rcases hcases with ⟨error, hchecks, -⟩ | ⟨_, kind, -, hseek, -⟩ |
      ⟨endOffset, decoded, written, kind, -, -, heq⟩ | ⟨endOffset, decoded, -, -, heq⟩
    · rw [hprepared] at hchecks
      cases hchecks
    · rw [hnone] at hseek
      cases hseek
    · rw [heq]
      exact writeState_recordMutationError _ _
    · rw [heq] at hfails
      obtain ⟨error, herror⟩ := hfails
      cases herror
  case stopped =>
    intro hstate
    obtain ⟨error, hchecks⟩ := prepareAppend_unusable hstate frame
    have heq : handle.append frame io = (.error (.refused error), handle) := by
      unfold JournalHandle.append
      rw [hchecks]
    rw [hcall, heq]
    exact ⟨rfl, Or.inr ⟨_, rfl⟩⟩

theorem JournalHandle.answers_syncPending (handle : JournalHandle) (io : JournalIo) :
    handle.Answers io .syncPending := by
  have hcall : handle.call io .syncPending =
    (.synced (handle.syncPending io).1, (handle.syncPending io).2) := rfl
  have hcases := handle.syncPending_cases io
  constructor
  case cutoff =>
    rw [hcall]
    intro hne
    refine ⟨rfl, ?_⟩
    rcases hcases with ⟨error, -, heq⟩ | ⟨-, heq⟩ | ⟨next, operation, kind, file, -, heq⟩ |
      ⟨next, -, heq⟩
    · rw [heq] at hne
      exact absurd rfl hne
    · rw [heq] at hne
      exact absurd rfl hne
    · rw [heq] at hne
      exact absurd rfl hne
    · rw [heq]
      rfl
  case announced =>
    intro cutoff h
    rw [hcall] at h ⊢
    rw [ActiveJournal.prepareSync_announced]
    rcases hcases with ⟨error, -, heq⟩ | ⟨hchecks, heq⟩ |
      ⟨next, operation, kind, file, -, heq⟩ | ⟨next, hchecks, heq⟩
    · rw [heq] at h
      cases h
    · rw [heq] at h ⊢
      rw [hchecks]
      cases h
      exact ⟨rfl, rfl⟩
    · rw [heq] at h
      cases h
    · rw [heq] at h ⊢
      rw [hchecks]
      cases h
      exact ⟨rfl, rfl⟩
  case refused =>
    intro hquiet
    rw [hcall]
    rcases hcases with ⟨error, -, heq⟩ | ⟨-, heq⟩ | ⟨next, operation, kind, file, hchecks, -⟩ |
      ⟨next, hchecks, -⟩
    · rw [heq]
    · rw [heq]
    · exact absurd ⟨next, hchecks⟩ hquiet
    · exact absurd ⟨next, hchecks⟩ hquiet
  case poisoned =>
    rintro ⟨next, hnext⟩ hfails
    rw [hcall] at hfails ⊢
    rcases hcases with ⟨error, hchecks, -⟩ | ⟨hchecks, -⟩ |
      ⟨_, operation, kind, file, -, heq⟩ | ⟨_, -, heq⟩
    · rw [hnext] at hchecks
      cases hchecks
    · rw [hnext] at hchecks
      cases hchecks
    · rw [heq]
      exact writeState_recordMutationError _ _
    · rw [heq] at hfails
      obtain ⟨error, herror⟩ := hfails
      cases herror
  case stopped =>
    intro hstate
    obtain ⟨error, hchecks⟩ := prepareSync_unusable hstate
    have heq : handle.syncPending io = (.error (.refused error), handle) := by
      unfold JournalHandle.syncPending
      rw [hchecks]
    rw [hcall, heq]
    exact ⟨rfl, Or.inr ⟨_, rfl⟩⟩

theorem JournalHandle.answers (handle : JournalHandle) (io : JournalIo) (call : JournalCall) :
    handle.Answers io call := by
  cases call with
  | append frame => exact handle.answers_append io frame
  | syncPending => exact handle.answers_syncPending io
  | nextAppendSequence =>
    refine ⟨fun hne => absurd rfl hne, ?_, fun _ => rfl, fun hmutates => hmutates.elim, ?_⟩
    · intro cutoff h
      cases h
    · intro hstate
      refine ⟨rfl, Or.inr ?_⟩
      cases hnext : handle.journal.nextAppendSequence with
      | error error => exact ⟨error, hnext⟩
      | ok next => exact absurd (ActiveJournal.nextAppendSequence_ok.mp hnext).1 hstate
  | canFit frameLen =>
    refine ⟨fun hne => absurd rfl hne, ?_, fun _ => rfl, fun hmutates => hmutates.elim, ?_⟩
    · intro cutoff h
      cases h
    · exact fun _ => ⟨rfl, Or.inl ⟨frameLen, rfl⟩⟩

end Answers

/-- A handle that no longer writes stays as it is. -/
theorem JournalHistory.run_stopped {history : JournalHistory}
    (h : history.handle.journal.writeState ≠ .writable) (calls : List (JournalCall × JournalIo)) :
    (history.run calls).handle = history.handle := by
  induction calls generalizing history with
  | nil => rfl
  | cons next rest ih =>
    have hstep : (history.step next).handle = history.handle := by
      rw [step_handle]
      exact ((history.handle.answers next.2 next.1).stopped h).1
    have hrest := @ih (history.step next) (by rw [hstep]; exact h)
    exact hrest.trans hstep

/-- Whatever calls a journal is created for and whatever steps fail under them: its counts, its
limits and its durable cutoff are those of the frames that it has accepted, every call answers as
`JournalHandle.Answers` says, and behind a failure that may have changed bytes nothing changes any
more. -/
theorem journal_run_invariant (identity : JournalIdentity) (sequenceFloor : U64)
    (limits : ActiveJournalLimits) (calls : List (JournalCall × JournalIo))
    (hallowed : ∀ next ∈ calls, next.1.Allowed) :
    ((JournalHistory.created identity sequenceFloor limits).run calls).Sound identity
        sequenceFloor limits ∧
      (∀ io call, ((JournalHistory.created identity sequenceFloor limits).run
        calls).handle.Answers io call) ∧
      (((JournalHistory.created identity sequenceFloor limits).run
          calls).handle.journal.writeState ≠ .writable →
        ∀ later, (((JournalHistory.created identity sequenceFloor limits).run calls).run
          later).handle = ((JournalHistory.created identity sequenceFloor limits).run
            calls).handle) := by
  refine ⟨?_, ?_, ?_⟩
  · exact (JournalHistory.Sound.created identity sequenceFloor limits).run hallowed
  · intro io call
    exact JournalHandle.answers _ io call
  · intro hstate later
    exact JournalHistory.run_stopped hstate later

def sampleJournalIdentity : JournalIdentity := ⟨sampleAdmission.storeId, 1⟩

def sampleFrameAt (sequence : AppendSequenceV1) : Except PrepareAdmissionError PreparedFrameV1 := do
  let prepared ← PreparedAdmissionV1.new sampleAdmission
  prepared.intoFrame sequence

def sampleFrame : Except PrepareAdmissionError PreparedFrameV1 := sampleFrameAt sampleSequence

theorem sampleFrameAt_built {sequence : AppendSequenceV1} {frame : PreparedFrameV1}
    (h : sampleFrameAt sequence = .ok frame) : frame.Built := by
  have hadmit : sampleDecoded.readmit sampleRegistry = .ok sampleAdmission := by decide +kernel
  unfold sampleFrameAt at h
  rw [bind_ok] at h
  obtain ⟨prepared, hnew, hinto⟩ := h
  have hsequence : frame.appendSequence = sequence := by
    unfold PreparedAdmissionV1.intoFrame at hinto
    split at hinto
    next => cases hinto
    next =>
      split at hinto
      next =>
        cases hinto
        rfl
      next => cases hinto
  refine ⟨sampleAdmission, prepared, ⟨sampleRegistry, sampleRegistry_reachable,
    readmit_constructible hadmit⟩, hnew, ?_⟩
  rw [hsequence]
  exact hinto

theorem sampleFrame_built {frame : PreparedFrameV1} (h : sampleFrame = .ok frame) : frame.Built :=
  sampleFrameAt_built h

/-- One frame is accepted, the last step of its synchronisation meets a full disk, and the handle
has to be opened again. -/
theorem journal_run_invariant_sample : ∃ frame, frame.Built ∧
    (((JournalHistory.created sampleJournalIdentity 0 sampleJournalLimits).run
      [(.append frame, .succeeds), (.syncPending, { JournalIo.succeeds with
        syncCheckpoint := some .storageFull })]).Sound sampleJournalIdentity 0
        sampleJournalLimits) ∧
    ((JournalHistory.created sampleJournalIdentity 0 sampleJournalLimits).run
      [(.append frame, .succeeds), (.syncPending, { JournalIo.succeeds with
        syncCheckpoint := some .storageFull })]).handle.journal.writeState = .reopenRequired := by
  have hruns : (sampleFrame.toOption.any fun frame => decide
      (((JournalHistory.created sampleJournalIdentity 0 sampleJournalLimits).run
        [(.append frame, .succeeds), (.syncPending, { JournalIo.succeeds with
          syncCheckpoint := some .storageFull })]).handle.journal.writeState =
        .reopenRequired)) = true := by decide +kernel
  obtain ⟨frame, hframe, hstate⟩ := exists_ok_any hruns
  have hbuilt := sampleFrame_built hframe
  refine ⟨frame, hbuilt, ?_, of_decide_eq_true hstate⟩
  refine (journal_run_invariant sampleJournalIdentity 0 sampleJournalLimits _ ?_).1
  intro next hnext
  simp only [List.mem_cons, List.not_mem_nil, or_false] at hnext
  rcases hnext with rfl | rfl
  · exact hbuilt
  · trivial

end Historian
