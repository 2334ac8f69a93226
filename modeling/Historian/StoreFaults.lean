import Historian.JournalHandle
import Historian.StoreRun

namespace Historian

open Wire Checks Files

/-- The steps of the file system that the journal and the store name in their evidence. -/
inductive FileOperation where
  | openDirectory | readInventory | openArtifact | createArtifact | lock | read | seek | write
  | resize | truncate | syncJournal | syncCheckpoint | syncArtifact | publish | remove
  | syncDirectory | metadata
  deriving DecidableEq, Repr

def FileOperation.isMutating : FileOperation → Bool
  | .createArtifact | .write | .resize | .truncate | .syncJournal | .syncCheckpoint
  | .syncArtifact | .publish | .remove | .syncDirectory => true
  | .openDirectory | .readInventory | .openArtifact | .lock | .read | .seek | .metadata => false

structure FileEvidence where
  operation : FileOperation
  kind : ErrorKind
  deriving DecidableEq, Repr

/-- The answer of a method of the store that failed: a refusal, or what a step reported. The two
layers report a step alike, and each of them treats the report of the other as its own. -/
inductive StoreFailure where
  | refused (error : ManifestStoreError)
  | io (evidence : FileEvidence)
  | storagePressure (evidence : FileEvidence)
  deriving DecidableEq

def StoreFailure.isStoragePressure : StoreFailure → Bool
  | .storagePressure _ => true
  | .refused _ | .io _ => false

def classifyManifestIo (operation : FileOperation) (kind : ErrorKind) : StoreFailure :=
  if operation.isMutating ∧ Historian.isStoragePressure kind then .storagePressure ⟨operation, kind⟩
  else .io ⟨operation, kind⟩

/-- A step that fails inside a part of a method: how many changes the part has completed before
it, and what the step itself leaves in the directory. -/
structure StepFault where
  completed : Nat
  operation : FileOperation
  kind : ErrorKind
  leaves : List StoreEffect

/-- What the file system does with the steps of one call: the reads of its plan, and the steps
of its one or two parts. -/
structure StoreIo where
  plan : Option ErrorKind
  first : Option StepFault
  second : Option StepFault

/-- Every step succeeds. -/
def StoreIo.succeeds : StoreIo := ⟨none, none, none⟩

/-- The answer of a method, and whether it has attempted a change of the directory. -/
structure IoAnswer (α : Type) where
  result : Except StoreFailure α
  store : ManifestStore
  effects : List StoreEffect
  attempted : Bool

def IoAnswer.forget {α : Type} (answer : IoAnswer α) : IoAnswer Unit :=
  ⟨answer.result.map fun _ => (), answer.store, answer.effects, answer.attempted⟩

/-- A journal whose files may have changed under a failure refuses every later mutation. -/
def ActiveJournal.recordMutationError (journal : ActiveJournal) (failure : StoreFailure) :
    ActiveJournal :=
  { journal with writeState := if failure.isStoragePressure then .reopenRequired else .faulted }

namespace ManifestStore

variable (store : ManifestStore)

/-- A failure of the journal, which records what a step has reported before the store reads its
state. -/
def recordActiveFailure (failure : StoreFailure) : ManifestStore :=
  match failure with
  | .refused _ => store.recordActiveError
  | failure =>
    ({ store with journal := store.journal.recordMutationError failure } :
      ManifestStore).recordActiveError

def recordTerminalFailure : StoreFailure → ManifestStore
  | .refused error => store.recordTerminalError error
  | .io _ => { store with writeState := .faulted }
  | .storagePressure _ => { store with writeState := .reopenRequired }

def refusedIo {α : Type} (error : ManifestStoreError) : IoAnswer α :=
  ⟨.error (.refused error), store, [], false⟩

def settledIo {α : Type} (output : α) : IoAnswer α := ⟨.ok output, store, [], false⟩

/-- A failure in front of the first change of the directory that the method attempts. -/
def unattempted {α : Type} (failure : StoreFailure) : IoAnswer α :=
  ⟨.error failure, store, [], false⟩

/-- A part that changes the directory. It has attempted a change when a step of it has failed,
when it has completed one, and when the file that it was to create was there already. -/
def attemptIo {α β : Type} (onError : StoreFailure → ManifestStore) (part : StoreAction β)
    (fault : Option StepFault) (next : β → StoreDirectory → IoAnswer α) (d : StoreDirectory) :
    IoAnswer α :=
  match fault with
  | some fault =>
    let failure := classifyManifestIo fault.operation fault.kind
    ⟨.error failure, onError failure, (part d).2.take fault.completed ++ fault.leaves, true⟩
  | none =>
    match part d with
    | (.error error, effects) =>
      ⟨.error (.refused error), onError (.refused error), effects,
        effects.isEmpty = false ∨ error = .interruptedPublication⟩
    | (.ok x, effects) =>
      let answer := next x (applyAll d effects)
      { answer with
        effects := effects ++ answer.effects
        attempted := effects.isEmpty = false ∨ answer.attempted = true }

def appendIo (frame : PreparedFrameV1) (io : StoreIo) (d : StoreDirectory) : IoAnswer U64 :=
  match store.preflightHistoricalDeclaration frame.admission.declaration with
  | .error error => store.refusedIo error
  | .ok () =>
    match store.journal.prepareAppend frame with
    | .error error => store.recordActiveError.unattempted (.refused (.active error))
    | .ok _ =>
      match io.plan with
      | some kind => store.recordActiveError.unattempted (classifyManifestIo .seek kind)
      | none =>
        attemptIo store.recordActiveFailure ((store.journal.append frame).mapError .active)
          io.first (fun appended _ =>
            ({ store with journal := appended.2 } : ManifestStore).settledIo appended.1) d

/-- The parts of a synchronisation. The journal has steps only where it has something to
synchronise. -/
def syncPendingIo (pending : List PendingRetryOutcome) (io : StoreIo) (d : StoreDirectory) :
    IoAnswer (ManifestCommit × RetryStateSnapshot) :=
  match store.planSync pending with
  | .error error => store.refusedIo error
  | .ok none => store.settledIo (store.commit, store.retry)
  | .ok (some plan) =>
    match store.journal.prepareSync with
    | .error error => store.recordActiveError.unattempted (.refused (.active error))
    | .ok next =>
      attemptIo store.recordActiveFailure (store.journal.syncPending.mapError .active)
        (next.bind fun _ => io.first)
        (fun synced =>
          let store := { store with journal := synced.2 }
          attemptIo store.recordTerminalFailure (do
            ensure (refuse (synced.1 ≠ plan.cutoff) .invalidRetry)
            store.commitSyncedPending plan) io.second
            fun adopted _ => adopted.settledIo (adopted.commit, adopted.retry)) d

def applyRegistryIo {α : Type} (operation : SeriesRegistry → Except ModelError (α × SeriesRegistry))
    (io : StoreIo) (d : StoreDirectory) : IoAnswer (α × ManifestCommit) :=
  match store.planRegistry operation with
  | .error error => store.refusedIo error
  | .ok (.unchanged output) => store.settledIo (output, store.commit)
  | .ok (.publish output candidate registry manifest) =>
    attemptIo store.recordTerminalFailure (store.publishRegistry candidate registry manifest)
      io.first (fun adopted _ => adopted.settledIo (output, adopted.commit)) d

def rotateIo (io : StoreIo) (d : StoreDirectory) : IoAnswer ManifestCommit :=
  match store.ensureUsable with
  | .error error => store.refusedIo error
  | .ok () =>
    match io.plan with
    | some kind => store.unattempted (classifyManifestIo .read kind)
    | none =>
      match store.prepareRotation d with
      | .error error => store.refusedIo error
      | .ok plan =>
        attemptIo store.recordTerminalFailure (store.publishRotation plan) io.first
          (fun adopted =>
            attemptIo adopted.recordTerminalFailure
              (adopted.finishRotation plan.intent.sourceGeneration) io.second
              fun _ _ => adopted.settledIo adopted.commit) d

end ManifestStore

def StoreOp.runIo (store : ManifestStore) (d : StoreDirectory) (io : StoreIo) :
    StoreOp → IoAnswer Unit
  | .append frame => (store.appendIo frame io d).forget
  | .syncPending pending => (store.syncPendingIo pending io d).forget
  | .register seriesId binding payload evidence =>
    (store.applyRegistryIo (fun registry => registry.register seriesId binding payload evidence)
      io d).forget
  | .revise seriesId expectedRevision payload evidence =>
    (store.applyRegistryIo
      (fun registry => registry.revise seriesId expectedRevision payload evidence) io d).forget
  | .retire seriesId expectedRevision evidence =>
    (store.applyRegistryIo (fun registry => registry.retire seriesId expectedRevision evidence)
      io d).forget
  | .rotate => (store.rotateIo io d).forget

/-- A store that was opened from whatever directory, and its directory, after any of its methods
with any failures of their steps. -/
inductive ManifestStore.Live (config : ManifestStoreConfig) :
    ManifestStore → StoreDirectory → Prop
  | opened {store : ManifestStore} {d : StoreDirectory} {effects : List StoreEffect}
      (opens : ManifestStore.open config d = (.ok store, effects)) :
    Live config store (applyAll d effects)
  | stepped {store : ManifestStore} {d : StoreDirectory} {op : StoreOp} {io : StoreIo}
      (before : Live config store d) :
    Live config (op.runIo store d io).store (applyAll d (op.runIo store d io).effects)

section Refinement

/-- The two answers agree on everything but the record of an attempt. -/
structure IoAnswer.Agrees {α : Type} (answer : IoAnswer α) (plain : Answer α) : Prop where
  result : answer.result = plain.result.mapError .refused
  store : answer.store = plain.store
  effects : answer.effects = plain.effects

theorem IoAnswer.Agrees.forget {α : Type} {answer : IoAnswer α} {plain : Answer α}
    (h : answer.Agrees plain) : answer.forget.Agrees plain.forget := by
  refine ⟨?_, h.store, h.effects⟩
  unfold IoAnswer.forget Answer.forget
  dsimp only
  rw [h.result]
  cases plain.result with
  | error error => rfl
  | ok output => rfl

namespace ManifestStore

variable {store : ManifestStore} {d : StoreDirectory}

theorem agrees_refused {α : Type} (error : ManifestStoreError) :
    (store.refusedIo error : IoAnswer α).Agrees (store.refused error) := ⟨rfl, rfl, rfl⟩

theorem agrees_settled {α : Type} (output : α) :
    (store.settledIo output).Agrees (store.settled output) := ⟨rfl, rfl, rfl⟩

theorem agrees_attempt {α β : Type} {onFailure : StoreFailure → ManifestStore}
    {onError : ManifestStoreError → ManifestStore} {part : StoreAction β}
    {nextIo : β → StoreDirectory → IoAnswer α} {next : β → StoreDirectory → Answer α}
    (herror : ∀ error, onFailure (.refused error) = onError error)
    (hnext : ∀ x d', (nextIo x d').Agrees (next x d')) :
    (attemptIo onFailure part none nextIo d).Agrees (attempt onError part next d) := by
  unfold attemptIo attempt
  rcases part d with ⟨r, effects⟩
  cases r with
  | error error => exact ⟨rfl, herror error, rfl⟩
  | ok x =>
    obtain ⟨hresult, hstore, heffects⟩ := hnext x (applyAll d effects)
    refine ⟨hresult, hstore, ?_⟩
    dsimp only
    rw [heffects]

theorem agrees_append (frame : PreparedFrameV1) :
    (store.appendIo frame .succeeds d).Agrees (store.append frame d) := by
  unfold appendIo ManifestStore.append
  cases store.preflightHistoricalDeclaration frame.admission.declaration with
  | error error => exact agrees_refused error
  | ok checked =>
    dsimp only
    cases hprepared : store.journal.prepareAppend frame with
    | error error =>
      have hpart : (store.journal.append frame).mapError ManifestStoreError.active d =
          (.error (.active error), []) := by
        unfold Action.mapError
        rw [append_eq, hprepared]
        rfl
      unfold attempt
      rw [hpart]
      exact ⟨rfl, rfl, rfl⟩
    | ok prepared => exact agrees_attempt (fun _ => rfl) fun _ _ => agrees_settled _

theorem agrees_syncPending (pending : List PendingRetryOutcome) :
    (store.syncPendingIo pending .succeeds d).Agrees (store.syncPending pending d) := by
  unfold syncPendingIo ManifestStore.syncPending
  rcases store.planSync pending with error | found
  · exact agrees_refused error
  rcases found with _ | plan
  · exact agrees_settled _
  dsimp only
  cases hprepared : store.journal.prepareSync with
  | error error =>
    have hpart : store.journal.syncPending.mapError ManifestStoreError.active d =
        (.error (.active error), []) := by
      unfold Action.mapError
      rw [syncPending_eq, hprepared]
      rfl
    unfold attempt
    rw [hpart]
    exact ⟨rfl, rfl, rfl⟩
  | ok next =>
    have hfault : (next.bind fun _ => StoreIo.succeeds.first) = none := by
      cases next <;> rfl
    dsimp only
    rw [hfault]
    refine agrees_attempt (fun _ => rfl) fun synced d' => ?_
    exact agrees_attempt (fun _ => rfl) fun _ _ => agrees_settled _

theorem agrees_applyRegistry {α : Type}
    (operation : SeriesRegistry → Except ModelError (α × SeriesRegistry)) :
    (store.applyRegistryIo operation .succeeds d).Agrees (store.applyRegistry operation d) := by
  unfold applyRegistryIo applyRegistry
  rcases store.planRegistry operation with error | plan
  · exact agrees_refused error
  cases plan with
  | unchanged output => exact agrees_settled _
  | publish output candidate registry manifest =>
    exact agrees_attempt (fun _ => rfl) fun _ _ => agrees_settled _

theorem agrees_rotate : (store.rotateIo .succeeds d).Agrees (store.rotate d) := by
  unfold rotateIo ManifestStore.rotate
  cases husable : store.ensureUsable with
  | error error => exact agrees_refused error
  | ok checked =>
    change IoAnswer.Agrees _ (match store.prepareRotation d with
      | .error error => store.refused error
      | .ok plan => _)
    dsimp only [StoreIo.succeeds]
    cases store.prepareRotation d with
    | error error => exact agrees_refused error
    | ok plan =>
      refine agrees_attempt (fun _ => rfl) fun adopted d' => ?_
      exact agrees_attempt (fun _ => rfl) fun _ _ => agrees_settled _

/-- Where every step succeeds the methods are those of the store over its directory. -/
theorem runIo_succeeds (op : StoreOp) :
    (op.runIo store d .succeeds).Agrees (op.run store d) := by
  cases op with
  | append frame => exact (agrees_append frame).forget
  | syncPending pending => exact (agrees_syncPending pending).forget
  | register => exact (agrees_applyRegistry _).forget
  | revise => exact (agrees_applyRegistry _).forget
  | retire => exact (agrees_applyRegistry _).forget
  | rotate => exact agrees_rotate.forget

end ManifestStore

end Refinement

end Historian
