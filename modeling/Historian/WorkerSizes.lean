import Historian.IngressSizes
import Historian.RootOpen
import Historian.Writer

namespace Historian

open Wire Checks Files

/-- An empty generation takes a frame of this length, and the journal's limits take its payload. -/
def ActiveJournalLimits.Takes (limits : ActiveJournalLimits) (frameLen : Nat) : Prop :=
  0 < limits.recordLimit ∧
    frameLen ≤ journalV1FramePrefixLen + limits.payloadLimit + journalV1FrameCrcLen ∧
    journalV1HeaderLen + frameLen ≤ limits.activeBytes

instance (limits : ActiveJournalLimits) (frameLen : Nat) : Decidable (limits.Takes frameLen) :=
  inferInstanceAs (Decidable (_ ∧ _))

/-- The refusals that are about the size of a frame. -/
def ActiveJournalError.isSize : ActiveJournalError → Bool
  | .frameTooLarge | .rotationRequired | .journal .payloadTooLarge => true
  | _ => false

def ManifestStoreError.isSize : ManifestStoreError → Bool
  | .active error => error.isSize
  | _ => false

/-- A journal as it is opened. -/
structure ActiveJournal.Opened (journal : ActiveJournal) (limits : ActiveJournalLimits) :
    Prop where
  limits : journal.limits = limits
  state : journal.writeState = .writable

section Limits

variable {L : ActiveJournalLimits}

/-- The last part of an open: a record that was adopted is written to the checkpoint. -/
theorem yields_writeAdopted (identity : JournalIdentity) (limits : ActiveJournalLimits)
    (adopted : Option CheckpointState) (opened : ActiveJournal × Option ActiveRecoveryPlan)
    (hopened : opened.1.Opened limits) : Action.Yields (match adopted with
      | some next => do
        let file ← look fun d => readFile d (.activeCheckpoint identity.generation)
        emit (.put (.activeCheckpoint identity.generation)
          (writeCheckpointSlot file identity next))
        pure opened
      | none => pure opened : RootAction (ActiveJournal × Option ActiveRecoveryPlan))
      fun opened => opened.1.Opened limits := by
  cases adopted with
  | none => exact yields_pure hopened
  | some next => exact yields_then fun _ => yields_then fun _ => yields_pure hopened

theorem yields_openExisting (identity : JournalIdentity) (sequenceFloor : U64)
    (limits : ActiveJournalLimits) (policy : RecoveryPolicy)
    (expectedRoot : Option DurableCutoff) : Action.Yields
      (ActiveJournal.openExisting identity sequenceFloor limits policy expectedRoot)
      fun opened => opened.1.Opened limits := by
  unfold ActiveJournal.openExisting
  refine yields_then fun _ => yields_then fun _ => yields_then fun _ => yields_then fun _ => ?_
  refine yields_then fun _ => yields_then fun found => ?_
  obtain ⟨found, file⟩ := found
  refine yields_then fun _ => yields_then fun _ => ?_
  cases found with
  | some state =>
    refine yields_then fun _ => yields_then fun _ => yields_then fun scan => ?_
    refine yields_then fun _ => yields_then fun adopted => ?_
    rcases expectedRoot with _ | root
    · rcases scan.truncateTo with _ | truncateTo
      · exact yields_writeAdopted identity limits adopted _ ⟨rfl, rfl⟩
      · exact yields_then fun _ => yields_writeAdopted identity limits adopted _ ⟨rfl, rfl⟩
    · exact yields_writeAdopted identity limits adopted _ ⟨rfl, rfl⟩
  | none =>
    refine yields_then fun _ => yields_then fun _ => yields_then fun scan => ?_
    refine yields_then fun _ => yields_then fun adopted => ?_
    rcases expectedRoot with _ | root
    · rcases scan.truncateTo with _ | truncateTo
      · exact yields_writeAdopted identity limits adopted _ ⟨rfl, rfl⟩
      · exact yields_then fun _ => yields_writeAdopted identity limits adopted _ ⟨rfl, rfl⟩
    · exact yields_writeAdopted identity limits adopted _ ⟨rfl, rfl⟩

theorem yields_openJournal (config : ActiveJournalConfig) :
    Action.Yields (ActiveJournal.open config) fun journal => journal.Opened config.limits := by
  unfold ActiveJournal.open
  dsimp only
  split
  next =>
    unfold ActiveJournal.createNew
    refine yields_then fun _ => yields_then fun _ => yields_then fun _ => yields_then fun _ => ?_
    exact yields_pure ⟨rfl, rfl⟩
  next =>
    exact yields_bind (yields_mapError (yields_openExisting _ _ _ _ _)) fun opened hopened =>
      yields_pure hopened

theorem yields_commitRecovery {store : ManifestStore} (h : store.journal.Opened L)
    (inventory : RecoveryInventoryState) (plan : Option ActiveRecoveryPlan)
    (recovery : RecoveryCommit) :
    Action.Yields (store.commitRecovery inventory plan recovery)
      fun adopted => adopted.journal.Opened L := by
  rw [ManifestStore.commitRecovery_eq]
  refine yields_then fun _ => yields_then fun _ => yields_then fun slot => ?_
  unfold ManifestStore.adoptRecovery
  exact yields_then fun _ => yields_then fun _ => yields_then fun _ => yields_pure h

theorem generationConfig_limits {storeId : StoreId} {limits : ActiveJournalLimits}
    {generation sequenceFloor : U64} {config : ActiveJournalConfig}
    (h : generationConfig storeId limits generation sequenceFloor = .ok config) :
    config.limits = limits := by
  unfold generationConfig ActiveJournalConfig.manifestGeneration at h
  rw [mapError_ok, then_ok, pure_ok] at h
  rw [← h.2]
  rfl

theorem yields_openCommitted (config : ManifestStoreConfig) (manifestSlots : ManifestSlots)
    (currentSlot : Fin 2) (current : ManifestRecord) (rotationIntent : Option RotationIntent) :
    Action.Yields (openCommitted config manifestSlots currentSlot current rotationIntent)
      fun store => store.journal.Opened config.journalLimits := by
  unfold openCommitted
  refine yields_bind (Q := fun activeConfig => activeConfig.limits = config.journalLimits)
    (fun _ _ hconfig => generationConfig_limits hconfig) fun activeConfig hconfig => ?_
  have hopen : Action.Yields
      ((ActiveJournal.openManifestRoot activeConfig current.cutoff).mapError mapRootOpen)
      fun opened => opened.1.Opened config.journalLimits := by
    refine yields_mapError (yields_then fun _ => ?_)
    rw [← hconfig]
    exact yields_openExisting _ _ _ _ _
  refine yields_bind hopen fun opened hopened => ?_
  obtain ⟨journal, recoveryPlan⟩ := opened
  refine yields_bind (Q := fun read => read.store.journal.Opened config.journalLimits) ?_ ?_
  · intro d read hread
    obtain ⟨-, -, -, -, -, -, hjournal, -⟩ := readCommitted_ok hread
    rw [hjournal]
    exact hopened
  · intro read hread
    unfold ManifestStore.convergeRecovery
    refine yields_then fun found => ?_
    cases found with
    | none => exact yields_then fun _ => yields_pure hread
    | some recovery => exact yields_commitRecovery hread _ _ _

/-- A store is opened with the limits of its configuration and a writable journal. -/
theorem yields_open (config : ManifestStoreConfig) :
    Action.Yields (ManifestStore.open config)
      fun store => store.journal.Opened config.journalLimits := by
  unfold ManifestStore.open
  refine yields_then fun inventory => yields_then fun converged => ?_
  unfold openRoot
  refine yields_then fun selected => ?_
  rcases selected with _ | ⟨currentSlot, current⟩
  · unfold initializeGenesis
    refine yields_then fun _ => ?_
    have hjournal : Action.Yields (openGenesisJournal config converged.inventory)
        fun journal => journal.Opened config.journalLimits := by
      unfold openGenesisJournal
      split
      next => exact yields_mapError (yields_openJournal _)
      next => exact yields_then fun _ => yields_mapError (yields_openJournal _)
    refine yields_bind hjournal fun journal hlimits => ?_
    refine yields_then fun _ => yields_then fun _ => yields_then fun _ => ?_
    refine yields_then fun _ => yields_then fun _ => yields_then fun _ => ?_
    exact yields_pure hlimits
  · refine yields_then fun _ => ?_
    exact yields_bind (yields_openCommitted config _ _ _ _) fun store hstore =>
      yields_then fun _ => yields_pure hstore

/-- What each part of a method gives its rest, and what the method leaves however it ends. -/
theorem ManifestStore.attempt_leaves {α β : Type} {onError : ManifestStoreError → ManifestStore}
    {part : StoreAction β} {next : β → StoreDirectory → Answer α} {R : β → Prop}
    {Q : ManifestStore → Prop} (hpart : part.Yields R) (herror : ∀ error, Q (onError error))
    (hnext : ∀ x d, R x → Q (next x d).store) (d : StoreDirectory) :
    Q (attempt onError part next d).store := by
  unfold attempt
  rcases h : part d with ⟨r, effects⟩
  cases r with
  | error e => exact herror e
  | ok x => exact hnext x _ (hpart d x (by rw [h]))

/-- A method that succeeds has succeeded in its first part. -/
theorem ManifestStore.attempt_ok {α β : Type} {onError : ManifestStoreError → ManifestStore}
    {part : StoreAction β} {next : β → StoreDirectory → Answer α} {d : StoreDirectory} {y : α}
    (h : (attempt onError part next d).result = .ok y) :
    ∃ x effects, part d = (.ok x, effects) ∧ (next x (applyAll d effects)).result = .ok y ∧
      attempt onError part next d = { next x (applyAll d effects) with
        effects := effects ++ (next x (applyAll d effects)).effects } := by
  unfold attempt at h ⊢
  rcases hpart : part d with ⟨r, effects⟩
  rw [hpart] at h
  cases r with
  | error e => cases h
  | ok x => exact ⟨x, effects, rfl, h, rfl⟩

variable {store : ManifestStore} {d : StoreDirectory}

theorem recordActiveError_journal (store : ManifestStore) :
    store.recordActiveError.journal = store.journal := by
  unfold ManifestStore.recordActiveError
  split
  next => rfl
  next => rfl

theorem yields_journalAppend (journal : ActiveJournal) (frame : PreparedFrameV1) :
    Action.Yields (journal.append frame) fun appended => appended.2.limits = journal.limits := by
  unfold ActiveJournal.append
  refine yields_then fun _ => yields_then fun _ => yields_then fun _ => yields_then fun _ => ?_
  refine yields_then fun _ => yields_then fun _ => yields_then fun _ => yields_then fun _ => ?_
  exact yields_then fun _ => yields_then fun _ => yields_pure rfl

theorem yields_journalSync (journal : ActiveJournal) :
    Action.Yields journal.syncPending fun synced => synced.2.limits = journal.limits := by
  unfold ActiveJournal.syncPending
  refine yields_then fun _ => ?_
  split
  next => exact yields_pure rfl
  next => exact yields_then fun _ => yields_then fun _ => yields_then fun _ => yields_pure rfl

theorem yields_publishAndAdopt (prepared : PreparedManifestPublication) :
    Action.Yields (store.publishAndAdoptPreparedManifest prepared)
      fun adopted => adopted.journal = store.journal := by
  unfold ManifestStore.publishAndAdoptPreparedManifest
  refine yields_then fun _ => yields_then fun _ => yields_then fun _ => yields_then fun _ => ?_
  exact yields_pure rfl

theorem append_limits (frame : PreparedFrameV1) :
    (store.append frame d).store.journal.limits = store.journal.limits := by
  unfold ManifestStore.append
  split
  next => rfl
  next =>
    refine ManifestStore.attempt_leaves
      (Q := fun other => other.journal.limits = store.journal.limits)
      (yields_mapError (yields_journalAppend _ _)) ?_ (fun _ _ happended => happended) d
    intro error
    rw [recordActiveError_journal]

theorem syncPending_limits (pending : List PendingRetryOutcome) :
    (store.syncPending pending d).store.journal.limits = store.journal.limits := by
  unfold ManifestStore.syncPending
  split
  next => rfl
  next => rfl
  next plan _ =>
    refine ManifestStore.attempt_leaves
      (Q := fun other => other.journal.limits = store.journal.limits)
      (yields_mapError (yields_journalSync _)) ?_ ?_ d
    · intro error
      rw [recordActiveError_journal]
    · intro synced d' hsynced
      refine ManifestStore.attempt_leaves
        (Q := fun other => other.journal.limits = store.journal.limits)
        (R := fun adopted : ManifestStore => adopted.journal.limits = store.journal.limits)
        (yields_then fun _ => ?_) (fun _ => hsynced) (fun _ _ hadopted => hadopted) d'
      unfold ManifestStore.commitSyncedPending
      refine yields_then fun _ => yields_bind (yields_publishAndAdopt _) fun adopted hadopted => ?_
      refine yields_pure ?_
      rw [hadopted]
      exact hsynced

theorem applyRegistry_journal {α : Type}
    (operation : SeriesRegistry → Except ModelError (α × SeriesRegistry)) :
    (store.applyRegistry operation d).store.journal = store.journal := by
  unfold ManifestStore.applyRegistry
  split
  next => rfl
  next => rfl
  next output candidate registry manifest _ =>
    refine ManifestStore.attempt_leaves (Q := fun other => other.journal = store.journal)
      (R := fun adopted : ManifestStore => adopted.journal = store.journal) ?_ ?_ ?_ d
    · unfold ManifestStore.publishRegistry
      refine yields_then fun _ => yields_bind (yields_publishAndAdopt _) fun adopted hadopted => ?_
      exact yields_pure hadopted
    · intro error
      rfl
    · intro adopted d' hadopted
      exact hadopted

/-- A generation without a record. -/
def ActiveJournal.Empty (journal : ActiveJournal) : Prop :=
  journal.records = [] ∧ journal.activeBytes.val = journalV1HeaderLen

/-- A rotation goes on with an empty generation. -/
theorem yields_publishRotation {plan : RotationPlan} (hplan : store.prepareRotation d = .ok plan) :
    Action.Yields (store.publishRotation plan)
      fun adopted => adopted.journal.Empty ∧ adopted.journal.limits = store.journal.limits := by
  have hconfig := (ManifestStore.prepareRotation_ok hplan).config
  unfold ActiveJournalConfig.manifestGeneration at hconfig
  rw [then_ok, pure_ok] at hconfig
  unfold ManifestStore.publishRotation
  refine yields_then fun _ => yields_then fun _ => ?_
  refine yields_bind (Q := fun journal =>
    journal.Empty ∧ journal.limits = store.journal.limits) (yields_mapError ?_) ?_
  · rw [← hconfig.2]
    change Action.Yields (ActiveJournal.createNew _ _ _) _
    unfold ActiveJournal.createNew
    refine yields_then fun _ => yields_then fun _ => yields_then fun _ => yields_then fun _ => ?_
    exact yields_pure ⟨⟨rfl, rfl⟩, rfl⟩
  · intro successor hsuccessor
    refine yields_then fun _ => yields_then fun _ => yields_then fun _ => ?_
    exact yields_pure hsuccessor

theorem rotate_limits : (store.rotate d).store.journal.limits = store.journal.limits := by
  unfold ManifestStore.rotate
  split
  next => rfl
  next plan hplan =>
    rw [bind_ok] at hplan
    obtain ⟨-, -, hplan⟩ := hplan
    refine ManifestStore.attempt_leaves
      (Q := fun other => other.journal.limits = store.journal.limits)
      (yields_publishRotation hplan) ?_ ?_ d
    · intro error
      rfl
    · intro adopted d' hadopted
      refine ManifestStore.attempt_leaves
        (Q := fun other => other.journal.limits = store.journal.limits) (R := fun _ => True)
        (fun _ _ _ => trivial) ?_ ?_ d'
      · intro error
        exact hadopted.2
      · intro _ _ _
        exact hadopted.2

/-- A rotation that succeeds leaves an empty generation. -/
theorem rotate_empty {commit : ManifestCommit} (h : (store.rotate d).result = .ok commit) :
    (store.rotate d).store.journal.Empty := by
  unfold ManifestStore.rotate at h ⊢
  split at h
  next => cases h
  next plan hplan =>
    rw [bind_ok] at hplan
    obtain ⟨-, -, hplan⟩ := hplan
    obtain ⟨adopted, effects, hpart, hrest, heq⟩ := ManifestStore.attempt_ok h
    obtain ⟨hempty, -⟩ := yields_publishRotation hplan d adopted (by rw [hpart])
    obtain ⟨_, _, -, -, heq'⟩ := ManifestStore.attempt_ok hrest
    rw [heq, heq']
    exact hempty

/-- No method changes the limits of the journal, however it ends. -/
theorem StoreOp.run_limits (op : StoreOp) :
    (op.run store d).store.journal.limits = store.journal.limits := by
  cases op with
  | append frame => exact append_limits frame
  | syncPending pending => exact syncPending_limits pending
  | register => exact congrArg ActiveJournal.limits (applyRegistry_journal _)
  | revise => exact congrArg ActiveJournal.limits (applyRegistry_journal _)
  | retire => exact congrArg ActiveJournal.limits (applyRegistry_journal _)
  | rotate => exact rotate_limits

end Limits

section Append

variable {store : ManifestStore} {d : StoreDirectory} {error : ManifestStoreError}

theorem isSize_ensureUsable (h : store.ensureUsable = .error error) : error.isSize = false := by
  unfold ManifestStore.ensureUsable at h
  split at h
  next => cases h
  next => cases h; rfl
  next => cases h; rfl

theorem isSize_journalUsable {journal : ActiveJournal} {error : ActiveJournalError}
    (h : journal.ensureUsable = .error error) : error.isSize = false := by
  unfold ActiveJournal.ensureUsable at h
  split at h
  next => cases h
  next => cases h; rfl
  next => cases h; rfl

theorem isSize_sequence {value : U64} {error : ActiveJournalError}
    (h : (AppendSequenceV1.new value).mapError ActiveJournalError.journal = .error error) :
    error.isSize = false := by
  obtain ⟨journalError, hnew, rfl⟩ := mapError_error.mp h
  unfold AppendSequenceV1.new at hnew
  split at hnew
  next => cases hnew
  next => cases hnew; rfl

theorem isSize_nextAppendSequence {journal : ActiveJournal} {error : ActiveJournalError}
    (h : journal.nextAppendSequence = .error error) : error.isSize = false := by
  unfold ActiveJournal.nextAppendSequence at h
  rcases bind_error.mp h with h | ⟨_, -, h⟩
  · exact isSize_journalUsable h
  · split at h
    next => cases h; rfl
    next => exact isSize_sequence h

theorem isSize_preflight {declaration : SeriesDeclaration}
    (h : store.preflightHistoricalDeclaration declaration = .error error) :
    error.isSize = false := by
  unfold ManifestStore.preflightHistoricalDeclaration at h
  rcases bind_error.mp h with h | ⟨_, -, h⟩
  · exact isSize_ensureUsable h
  · obtain ⟨-, rfl⟩ := refuse_error.mp h
    rfl

/-- A frame that an empty generation takes is not refused when the rotation is decided. -/
theorem isSize_requiresRotation {frameLen : Nat} (htakes : store.journal.limits.Takes frameLen)
    (h : store.requiresRotation frameLen = .error error) : error.isSize = false := by
  unfold ManifestStore.requiresRotation at h
  rcases bind_error.mp h with h | ⟨_, -, h⟩
  · exact isSize_ensureUsable h
  rcases bind_error.mp h with h | ⟨_, -, h⟩
  · obtain ⟨hsize, -⟩ := refuse_error.mp h
    obtain ⟨hrecords, -, hbytes⟩ := htakes
    omega
  · exact absurd h pure_error

theorem requiresRotation_ok {frameLen : Nat} {required : Bool}
    (h : store.requiresRotation frameLen = .ok required) :
    required = !store.journal.canFit frameLen := by
  unfold ManifestStore.requiresRotation at h
  rw [then_ok, then_ok, pure_ok] at h
  exact h.2.2.symm

theorem ActiveJournal.Empty.canFit {journal : ActiveJournal} (h : journal.Empty) {frameLen : Nat}
    (htakes : journal.limits.Takes frameLen) : journal.canFit frameLen = true := by
  obtain ⟨hrecords, hbytes⟩ := h
  obtain ⟨hlimit, -, hactive⟩ := htakes
  unfold ActiveJournal.canFit
  rw [hrecords, hbytes]
  simpa using ⟨hlimit, hactive⟩

/-- The frame of an encoded command, as the writer builds it. -/
theorem PreparedAdmissionV1.intoFrame_of_new {prepared : PreparedAdmissionV1}
    (hbuilt : prepared.admission.Built)
    (hnew : PreparedAdmissionV1.new prepared.admission = .ok prepared)
    (sequence : AppendSequenceV1) :
    ∃ bytes, prepared.intoFrame sequence = .ok ⟨prepared.admission, sequence, bytes⟩ ∧
      bytes.length = prepared.frameLen ∧
      encodeAdmissionFrameV1 sequence prepared.admission = .ok bytes := by
  obtain ⟨-, hlen⟩ := PreparedAdmissionV1.new_measured hnew
  obtain ⟨payload, hwrites, hmax, hmeasured⟩ := hbuilt.frameLen
  have hpayload : prepared.payload = payload := by
    unfold PreparedAdmissionV1.new at hnew
    rw [hmeasured, encodeBytes_of_writes hwrites] at hnew
    simp only [↓reduceIte, Except.ok.injEq] at hnew
    rw [← hnew]
  have hbytes : frameBytes sequence.value payload = .ok (frame sequence.value payload) := by
    unfold frameBytes
    rw [then_ok, refuse_ok, pure_ok]
    exact ⟨by omega, rfl⟩
  have hframe : (frame sequence.value payload).length = prepared.frameLen := by
    rw [length_frame, hlen, hpayload]
  refine ⟨frame sequence.value payload, ?_, hframe, ?_⟩
  · unfold PreparedAdmissionV1.intoFrame
    rw [hpayload, hbytes]
    simp only [hframe, ↓reduceIte]
  · unfold encodeAdmissionFrameV1
    rw [encodeBytes_of_writes hwrites]
    exact hbytes

/-- The journal's limits take the payload of a frame that an empty generation takes. -/
theorem decode_of_takes {limits : ActiveJournalLimits} {frame : Bytes}
    {previous : Option AppendSequenceV1} {decoded : DecodedAdmissionV1}
    (htakes : limits.Takes frame.length)
    (h : decodeAdmissionFrameV1 frame .maximum previous = .ok decoded) :
    decodeAdmissionFrameV1 frame limits.decode previous = .ok decoded := by
  rw [decodeAdmissionFrameV1_ok] at h ⊢
  obtain ⟨sequence, payload, rfl, -, hrest⟩ := h
  refine ⟨sequence, payload, rfl, ?_, hrest⟩
  have hlen := htakes.2.1
  rw [length_frame] at hlen
  change payload.length ≤ limits.payloadLimit
  omega

/-- The next sequence follows the last record, where there is one. -/
theorem nextAppendSequence_follows {journal : ActiveJournal} {next : AppendSequenceV1}
    {previous : Option AppendSequenceV1} (hnext : journal.nextAppendSequence = .ok next)
    (hprevious : journal.previousSequence = .ok previous) :
    ∀ before ∈ previous, before.value.val + 1 = next.value.val := by
  unfold ActiveJournal.nextAppendSequence at hnext
  obtain ⟨-, hnext⟩ := then_ok.mp hnext
  split at hnext
  next => cases hnext
  next value hvalue =>
    rw [mapError_ok, AppendSequenceV1.new_ok] at hnext
    rw [checkedAdd_eq_some] at hvalue
    unfold ActiveJournal.previousSequence at hprevious
    unfold ActiveJournal.lastAppendSequence lastSequence at hvalue
    intro before hbefore
    split at hprevious
    next =>
      cases hprevious
      cases hbefore
    next record hlast =>
      rw [bind_ok] at hprevious
      obtain ⟨sequence, hsequence, hsome⟩ := hprevious
      rw [pure_ok] at hsome
      subst hsome
      rw [mapError_ok, AppendSequenceV1.new_ok] at hsequence
      cases hbefore
      rw [hlast] at hvalue
      rw [← hsequence, ← hnext]
      exact hvalue

theorem isSize_previousSequence {journal : ActiveJournal} {error : ActiveJournalError}
    (h : journal.previousSequence = .error error) : error.isSize = false := by
  unfold ActiveJournal.previousSequence at h
  split at h
  next => cases h
  next =>
    rcases bind_error.mp h with h | ⟨_, -, h⟩
    · exact isSize_sequence h
    · exact absurd h pure_error

/-- A frame that a caller can hold decodes where its sequence follows. -/
theorem PreparedFrameV1.Built.decodes {frame : PreparedFrameV1} (h : frame.Built)
    {limits : ActiveJournalLimits} (htakes : limits.Takes frame.bytes.length)
    {previous : Option AppendSequenceV1}
    (hprevious : ∀ before ∈ previous, before.value.val + 1 = frame.appendSequence.value.val) :
    ∃ decoded, decodeAdmissionFrameV1 frame.bytes limits.decode previous = .ok decoded := by
  obtain ⟨admission, prepared, hbuilt, hnew, hframe⟩ := h
  have hsame := PreparedAdmissionV1.new_admission hnew
  obtain ⟨bytes, hinto, -, hencode⟩ := PreparedAdmissionV1.intoFrame_of_new (hsame ▸ hbuilt)
    (hsame ▸ hnew) frame.appendSequence
  rw [hframe] at hinto
  have hbytes : frame.bytes = bytes := congrArg PreparedFrameV1.bytes (Except.ok.inj hinto)
  obtain ⟨registry, hreachable, hadmission⟩ := hsame ▸ hbuilt
  refine ⟨prepared.admission.mirror frame.appendSequence.value, decode_of_takes htakes ?_⟩
  rw [hbytes]
  exact decode_encodeAdmissionFrameV1 registry hreachable prepared.admission hadmission
    frame.appendSequence bytes hencode previous hprevious

/-- A frame that fits is not refused for its size. -/
theorem isSize_journalAppend {journal : ActiveJournal} {frame : PreparedFrameV1}
    {error : ActiveJournalError} (hbuilt : frame.Built)
    (htakes : journal.limits.Takes frame.bytes.length)
    (hfit : journal.canFit frame.bytes.length = true)
    (h : (journal.append frame d).1 = .error error) : error.isSize = false := by
  unfold ActiveJournal.append at h
  rcases ensure_bind_error h with h | ⟨_, -, h⟩
  · exact isSize_journalUsable h
  rcases ensure_bind_error h with h | ⟨next, hnext, h⟩
  · exact isSize_nextAppendSequence h
  rcases ensure_bind_error h with h | ⟨_, hsame, h⟩
  · obtain ⟨-, rfl⟩ := refuse_error.mp h
    rfl
  rcases ensure_bind_error h with h | ⟨previous, hprevious, h⟩
  · exact isSize_previousSequence h
  have hdecode : ∃ decoded, decodeAdmissionFrameV1 frame.bytes journal.limits.decode previous =
      .ok decoded := by
    rw [refuse_ok, not_not] at hsame
    exact hbuilt.decodes htakes (hsame ▸ nextAppendSequence_follows hnext hprevious)
  obtain ⟨decoded, hdecode⟩ := hdecode
  rcases ensure_bind_error h with h | ⟨_, -, h⟩
  · rw [hdecode] at h
    cases h
  rcases ensure_bind_error h with h | ⟨_, -, h⟩
  · obtain ⟨-, rfl⟩ := refuse_error.mp h
    rfl
  have hroom : journal.records.length < journal.limits.recordLimit ∧
      journal.activeBytes.val + frame.bytes.length ≤ journal.limits.activeBytes :=
    of_decide_eq_true hfit
  have hmax := journal.limits.bytes_le
  have hword : maxActiveJournalBytes < 2 ^ 64 := by decide
  rcases ensure_bind_error h with h | ⟨endOffset, hend, h⟩
  · split at h
    next => cases h
    next hnone =>
      unfold checkedAdd at hnone
      split at hnone
      next => cases hnone
      next hover => omega
  rcases ensure_bind_error h with h | ⟨_, -, h⟩
  · obtain ⟨hover, -⟩ := refuse_error.mp h
    split at hend
    next _ hsum =>
      cases hend
      rw [checkedAdd_eq_some] at hsum
      omega
    next => cases hend
  rcases look_bind_error h with h | ⟨_, -, h⟩
  · obtain ⟨rootError, hread, rfl⟩ := mapError_error.mp h
    unfold readFile at hread
    split at hread
    next => cases hread
    next => cases hread; rfl
  · cases h

theorem isSize_append {frame : PreparedFrameV1} (hbuilt : frame.Built)
    (htakes : store.journal.limits.Takes frame.bytes.length)
    (hfit : store.journal.canFit frame.bytes.length = true)
    (h : (store.append frame d).result = .error error) : error.isSize = false := by
  unfold ManifestStore.append at h
  split at h
  next hpreflight =>
    cases h
    exact isSize_preflight hpreflight
  next =>
    unfold ManifestStore.attempt at h
    split at h
    next heq =>
      cases h
      have hresult := congrArg Prod.fst heq
      obtain ⟨journalError, hjournal, rfl⟩ := mapError_error.mp hresult
      exact isSize_journalAppend hbuilt htakes hfit hjournal
    next => cases h

end Append

end Historian
