import Historian.ManifestSlots

namespace Historian

open Wire Checks Files

/-- A frame that a caller can hold: the encoding of an admission that some registry built. -/
def PreparedFrameV1.Built (frame : PreparedFrameV1) : Prop :=
  ∃ admission prepared, admission.Built ∧ PreparedAdmissionV1.new admission = .ok prepared ∧
    prepared.intoFrame frame.appendSequence = .ok frame

/-- The methods that change an open store. -/
inductive StoreOp where
  | append (frame : PreparedFrameV1)
  | syncPending (pending : List PendingRetryOutcome)
  | register (seriesId : SeriesId) (binding : SeriesBinding) (payload : SeriesDeclarationPayload)
      (evidence : DeclarationEvidence)
  | revise (seriesId : SeriesId) (expectedRevision : DeclarationRevision)
      (payload : SeriesDeclarationPayload) (evidence : DeclarationEvidence)
  | retire (seriesId : SeriesId) (expectedRevision : DeclarationRevision)
      (evidence : DeclarationEvidence)
  | rotate

/-- Only an append carries a value whose construction matters. -/
def StoreOp.Allowed : StoreOp → Prop
  | .append frame => frame.Built
  | _ => True

def Answer.forget {α : Type} (answer : Answer α) : Answer Unit :=
  ⟨answer.result.map fun _ => (), answer.store, answer.effects⟩

def StoreOp.run (store : ManifestStore) (d : StoreDirectory) : StoreOp → Answer Unit
  | .append frame => (store.append frame d).forget
  | .syncPending pending => (store.syncPending pending d).forget
  | .register seriesId binding payload evidence =>
    (store.register seriesId binding payload evidence d).forget
  | .revise seriesId expectedRevision payload evidence =>
    (store.revise seriesId expectedRevision payload evidence d).forget
  | .retire seriesId expectedRevision evidence =>
    (store.retire seriesId expectedRevision evidence d).forget
  | .rotate => (store.rotate d).forget

/-- A directory whose store is open, or one that no process has open. -/
inductive StoreState where
  | running (store : ManifestStore) (d : StoreDirectory)
  | stopped (d : StoreDirectory)

/-- The active journal may lose or gain any bytes behind the cutoff of the root. -/
def Torn (config : ManifestStoreConfig) (d d' : StoreDirectory) : Prop :=
  ∃ generation file bytes, d.lookup (.activeJournal generation) = some file ∧
    d' = d.insert (.activeJournal generation) bytes ∧
    ∀ (slots : ManifestSlots) slot current, slots.On config.storeId d → slots.Selects slot current →
      current.cutoff.journal.generation = generation →
        bytes.take current.cutoff.endOffset.val = file.take current.cutoff.endOffset.val

/-- Every state of a store and of its directory from the first open on: the process may stop
between any two effects of a method or of an open, a stop may tear the active journal, and the
directory may be opened again. -/
inductive StoreState.Reachable (config : ManifestStoreConfig) : StoreState → Prop
  | fresh {d : StoreDirectory} (manifests : ∀ slot, d.lookup (.manifest slot) = none) :
    Reachable config (.stopped d)
  | opened {d : StoreDirectory} {mode : ActiveJournalOpenMode} {store : ManifestStore}
      {effects : List StoreEffect} (before : Reachable config (.stopped d))
      (opens : ManifestStore.open { config with mode := mode } d = (.ok store, effects)) :
    Reachable config (.running store (applyAll d effects))
  | openStopped {d : StoreDirectory} {mode : ActiveJournalOpenMode} {done : List StoreEffect}
      (before : Reachable config (.stopped d))
      (stops : done <+: (ManifestStore.open { config with mode := mode } d).2) :
    Reachable config (.stopped (applyAll d done))
  | stepped {store : ManifestStore} {d : StoreDirectory} {op : StoreOp}
      (before : Reachable config (.running store d)) (allowed : op.Allowed) :
    Reachable config (.running (op.run store d).store (applyAll d (op.run store d).effects))
  | stepStopped {store : ManifestStore} {d : StoreDirectory} {op : StoreOp}
      {done : List StoreEffect} (before : Reachable config (.running store d))
      (allowed : op.Allowed) (stops : done <+: (op.run store d).effects) :
    Reachable config (.stopped (applyAll d done))
  | torn {d d' : StoreDirectory} (before : Reachable config (.stopped d))
      (tears : Torn config d d') : Reachable config (.stopped d')

end Historian
