import Historian.RootFiles

namespace Historian

open Wire Checks Files

/-- The families of files that the roots of a store consist of. -/
def Artifact.IsRootFile : Artifact → Prop
  | .manifest _ | .registry _ | .retry _ | .catalog _ | .recovery _ => True
  | _ => False

theorem ManifestRecord.Names.rootFile {root : ManifestRecord} {name : Artifact}
    (h : root.Names name) : name.IsRootFile := by
  rcases h with hrefers | ⟨slot, rfl⟩
  · cases name with
    | manifest | registry | retry | catalog | recovery => trivial
    | _ => exact hrefers
  · trivial

section Avoidance

variable {S : Artifact → Prop}

theorem avoids_put {ε : Type} {name : Artifact} {content : Bytes} (h : ¬S name) :
    Action.Avoids S (emit (.put name content) : Action Artifact Bytes ε Unit) := by
  refine avoids_emit ?_
  rintro other hother rfl
  exact h hother

theorem avoids_remove {ε : Type} {name : Artifact} (h : ¬S name) :
    Action.Avoids S (emit (.remove name) : Action Artifact Bytes ε Unit) := by
  refine avoids_emit ?_
  rintro other hother rfl
  exact h hother

theorem avoids_rename {ε : Type} {source target : Artifact} (hsource : ¬S source)
    (htarget : ¬S target) :
    Action.Avoids S (emit (.rename source target) : Action Artifact Bytes ε Unit) := by
  refine avoids_emit ?_
  rintro other hother (rfl | rfl)
  · exact hsource hother
  · exact htarget hother

theorem avoids_publishReusableSlot {staging target : Artifact} {bytes : Bytes} {maximum : Nat}
    {verify : Bytes → Except ManifestStoreError Unit} (hstaging : ¬S staging)
    (htarget : ¬S target) :
    Action.Avoids S (publishReusableSlot staging target bytes maximum verify) := by
  unfold publishReusableSlot
  refine avoids_bind (avoids_ensure _) fun _ => avoids_bind (avoids_look _) fun _ => ?_
  refine avoids_bind (avoids_put hstaging) fun _ => avoids_bind (avoids_look _) fun _ => ?_
  exact avoids_bind (avoids_ensure _) fun _ => avoids_rename hstaging htarget

variable (hS : ∀ name, S name → name.IsRootFile)
include hS

theorem avoids_initializeCheckpoint (identity : JournalIdentity) (sequenceFloor : U64)
    (existing : Bytes) : Action.Avoids S (initializeCheckpoint identity sequenceFloor existing) :=
  avoids_bind (avoids_put (hS _)) fun _ => avoids_pure _

theorem avoids_openCheckpoint (identity : JournalIdentity) (sequenceFloor : U64)
    (policy : RecoveryPolicy) (journalLen : Nat) :
    Action.Avoids S (openCheckpoint identity sequenceFloor policy journalLen) := by
  unfold openCheckpoint
  refine avoids_bind (avoids_look _) fun found => ?_
  cases found with
  | none =>
    dsimp only
    split
    next => exact avoids_bind (avoids_initializeCheckpoint hS _ _ _) fun _ => avoids_pure _
    next => exact avoids_ensure _
  | some file =>
    dsimp only
    split
    next => exact avoids_bind (avoids_initializeCheckpoint hS _ _ _) fun _ => avoids_pure _
    next =>
      refine avoids_bind (avoids_ensure _) fun _ => ?_
      exact avoids_bind (avoids_ensure _) fun _ => avoids_pure _

/-- The last part of an open: a record that was adopted is written to the checkpoint. -/
theorem avoids_writeAdopted (identity : JournalIdentity) (adopted : Option CheckpointState)
    (opened : ActiveJournal × Option ActiveRecoveryPlan) : Action.Avoids S (match adopted with
      | some next => do
        let file ← look fun d => readFile d (.activeCheckpoint identity.generation)
        emit (.put (.activeCheckpoint identity.generation)
          (writeCheckpointSlot file identity next))
        pure opened
      | none => pure opened : RootAction (ActiveJournal × Option ActiveRecoveryPlan)) := by
  cases adopted with
  | none => exact avoids_pure _
  | some next =>
    refine avoids_bind (avoids_look _) fun _ => ?_
    exact avoids_bind (avoids_put (hS _)) fun _ => avoids_pure _

/-- An open of a journal changes the journal and its checkpoint only. -/
theorem avoids_openExisting (identity : JournalIdentity) (sequenceFloor : U64)
    (limits : ActiveJournalLimits) (policy : RecoveryPolicy)
    (expectedRoot : Option DurableCutoff) : Action.Avoids S
      (ActiveJournal.openExisting identity sequenceFloor limits policy expectedRoot) := by
  unfold ActiveJournal.openExisting
  refine avoids_bind (avoids_look _) fun _ => avoids_bind (avoids_ensure _) fun _ => ?_
  refine avoids_bind (avoids_ensure _) fun _ => avoids_bind (avoids_ensure _) fun _ => ?_
  refine avoids_bind (avoids_ensure _) fun _ => ?_
  refine avoids_bind (avoids_openCheckpoint hS _ _ _ _) fun found => ?_
  obtain ⟨found, file⟩ := found
  refine avoids_bind (avoids_ensure _) fun _ => avoids_bind (avoids_ensure _) fun _ => ?_
  cases found with
  | some state =>
    refine avoids_bind (avoids_pure _) fun _ => avoids_bind (avoids_ensure _) fun _ => ?_
    refine avoids_bind (avoids_ensure _) fun scan => avoids_bind (avoids_ensure _) fun _ => ?_
    refine avoids_bind ?_ fun adopted => ?_
    · split
      next => exact avoids_bind (avoids_ensure _) fun _ => avoids_pure _
      next => exact avoids_pure _
    · rcases expectedRoot with _ | root
      · rcases scan.truncateTo with _ | truncateTo
        · exact avoids_writeAdopted hS identity adopted _
        · exact avoids_bind (avoids_put (hS _)) fun _ => avoids_writeAdopted hS identity adopted _
      · exact avoids_writeAdopted hS identity adopted _
  | none =>
    refine avoids_bind (avoids_initializeCheckpoint hS _ _ _) fun _ => ?_
    refine avoids_bind (avoids_ensure _) fun _ => avoids_bind (avoids_ensure _) fun scan => ?_
    refine avoids_bind (avoids_ensure _) fun _ => avoids_bind ?_ fun adopted => ?_
    · split
      next => exact avoids_bind (avoids_ensure _) fun _ => avoids_pure _
      next => exact avoids_pure _
    · rcases expectedRoot with _ | root
      · rcases scan.truncateTo with _ | truncateTo
        · exact avoids_writeAdopted hS identity adopted _
        · exact avoids_bind (avoids_put (hS _)) fun _ => avoids_writeAdopted hS identity adopted _
      · exact avoids_writeAdopted hS identity adopted _

theorem avoids_createNew (identity : JournalIdentity) (sequenceFloor : U64)
    (limits : ActiveJournalLimits) :
    Action.Avoids S (ActiveJournal.createNew identity sequenceFloor limits) := by
  unfold ActiveJournal.createNew
  refine avoids_bind (avoids_look _) fun _ => avoids_bind (avoids_put (hS _)) fun _ => ?_
  refine avoids_bind (avoids_look _) fun _ => avoids_bind (avoids_put (hS _)) fun _ => ?_
  exact avoids_pure _

theorem avoids_openJournal (config : ActiveJournalConfig) :
    Action.Avoids S (ActiveJournal.open config) := by
  unfold ActiveJournal.open
  dsimp only
  split
  next => exact avoids_createNew hS _ _ _
  next =>
    refine avoids_bind (avoids_mapError (avoids_openExisting hS _ _ _ _ _)) fun _ => ?_
    exact avoids_pure _

theorem avoids_openManifestRoot (config : ActiveJournalConfig) (root : DurableCutoff) :
    Action.Avoids S (ActiveJournal.openManifestRoot config root) :=
  avoids_bind (avoids_ensure _) fun _ => avoids_openExisting hS _ _ _ _ _

theorem avoids_journalAppend (journal : ActiveJournal) (frame : PreparedFrameV1) :
    Action.Avoids S (journal.append frame) := by
  unfold ActiveJournal.append
  refine avoids_bind (avoids_ensure _) fun _ => avoids_bind (avoids_ensure _) fun _ => ?_
  refine avoids_bind (avoids_ensure _) fun _ => avoids_bind (avoids_ensure _) fun _ => ?_
  refine avoids_bind (avoids_ensure _) fun _ => avoids_bind (avoids_ensure _) fun _ => ?_
  refine avoids_bind (avoids_ensure _) fun _ => avoids_bind (avoids_ensure _) fun _ => ?_
  refine avoids_bind (avoids_look _) fun _ => avoids_bind (avoids_put (hS _)) fun _ => ?_
  exact avoids_pure _

theorem avoids_journalSync (journal : ActiveJournal) : Action.Avoids S journal.syncPending := by
  unfold ActiveJournal.syncPending
  refine avoids_bind (avoids_ensure _) fun _ => ?_
  split
  next => exact avoids_pure _
  next =>
    refine avoids_bind (avoids_ensure _) fun _ => avoids_bind (avoids_look _) fun _ => ?_
    exact avoids_bind (avoids_put (hS _)) fun _ => avoids_pure _

theorem avoids_applyRecovery (journal : ActiveJournal) (plan : ActiveRecoveryPlan) :
    Action.Avoids S (journal.applyRecovery plan) := by
  unfold ActiveJournal.applyRecovery
  refine avoids_bind (avoids_ensure _) fun _ => avoids_bind (avoids_look _) fun _ => ?_
  exact avoids_bind (avoids_ensure _) fun _ => avoids_put (hS _)

omit hS in
theorem avoids_synchronizeRecoveryCutoff (journal : ActiveJournal) (cutoff : DurableCutoff) :
    Action.Avoids S (journal.synchronizeRecoveryCutoff cutoff) := by
  unfold ActiveJournal.synchronizeRecoveryCutoff
  refine avoids_bind (avoids_ensure _) fun _ => avoids_bind (avoids_look _) fun _ => ?_
  exact avoids_ensure _

theorem avoids_publishRotationIntent (intent : RotationIntent) :
    Action.Avoids S (publishRotationIntent intent) := by
  unfold publishRotationIntent
  refine avoids_bind (avoids_look _) fun _ => avoids_bind (avoids_put (hS _)) fun _ => ?_
  refine avoids_bind (avoids_look _) fun _ => avoids_bind (avoids_ensure _) fun _ => ?_
  exact avoids_ensure _

theorem avoids_publishSealedGeneration (intent : RotationIntent) (expected : SealedGeneration) :
    Action.Avoids S (publishSealedGeneration intent expected) := by
  unfold publishSealedGeneration
  refine avoids_bind (avoids_look _) fun _ => avoids_bind (avoids_look _) fun _ => ?_
  refine avoids_bind (avoids_ensure _) fun _ => avoids_bind (avoids_look _) fun _ => ?_
  refine avoids_bind (avoids_put (hS _)) fun _ => avoids_bind (avoids_ensure _) fun _ => ?_
  refine avoids_bind (avoids_look _) fun _ => avoids_bind (avoids_ensure _) fun _ => ?_
  refine avoids_bind (avoids_rename (hS _) (hS _)) fun _ => ?_
  exact avoids_bind (avoids_look _) fun _ => avoids_ensure _

theorem avoids_cleanupCommittedRotation (sourceGeneration : U64) :
    Action.Avoids S (cleanupCommittedRotation sourceGeneration) := by
  refine avoids_removeEach ?_
  intro name hname
  simp only [List.mem_cons, List.not_mem_nil, or_false] at hname
  rcases hname with rfl | rfl | rfl | rfl <;> exact hS _

theorem avoids_openFormat (config : ManifestStoreConfig) :
    Action.Avoids S (openFormat config) := by
  unfold openFormat
  refine avoids_bind (avoids_look _) fun preflight => avoids_bind (avoids_ensure _) fun _ => ?_
  refine avoids_bind ?_ fun _ => ?_
  · cases preflight with
    | emptyCreate =>
      exact avoids_bind (avoids_put (hS _)) fun _ => avoids_publishReusableSlot (hS _) (hS _)
    | markerStaging => exact avoids_bind (avoids_look _) fun _ => avoids_rename (hS _) (hS _)
    | current => exact avoids_pure _
  refine avoids_bind (avoids_look _) fun _ => avoids_bind (avoids_ensure _) fun _ => ?_
  refine avoids_bind (avoids_look _) fun _ => avoids_bind (avoids_ensure _) fun _ => ?_
  exact avoids_pure _

theorem avoids_abandonedSuccessor (config : ManifestStoreConfig) (intent : RotationIntent) :
    Action.Avoids S (abandonedSuccessor config intent) := by
  unfold abandonedSuccessor
  refine avoids_bind (avoids_look _) fun found => ?_
  obtain ⟨journalExists, checkpointExists⟩ := found
  dsimp only
  split
  next =>
    refine avoids_bind (avoids_ensure _) fun _ => avoids_bind (avoids_ensure _) fun _ => ?_
    refine avoids_bind (avoids_mapError (avoids_openJournal hS _)) fun _ => ?_
    exact avoids_bind (avoids_ensure _) fun _ => avoids_pure _
  next => exact avoids_pure _

theorem avoids_checkAbandonedRotation (config : ManifestStoreConfig) (manifests : ManifestSlots)
    (current : ManifestRecord) (intent : RotationIntent) :
    Action.Avoids S (checkAbandonedRotation config manifests current intent) := by
  unfold checkAbandonedRotation
  refine avoids_bind (avoids_look _) fun _ => avoids_bind (avoids_look _) fun _ => ?_
  refine avoids_bind (avoids_look _) fun _ => avoids_bind (avoids_ensure _) fun _ => ?_
  refine avoids_bind (avoids_look _) fun _ => avoids_bind (avoids_ensure _) fun _ => ?_
  refine avoids_bind (avoids_mapError (avoids_openJournal hS _)) fun _ => ?_
  refine avoids_bind (avoids_ensure _) fun _ => avoids_bind (avoids_ensure _) fun _ => ?_
  refine avoids_bind (avoids_look _) fun _ => ?_
  refine avoids_bind (avoids_abandonedSuccessor hS _ _) fun _ => ?_
  refine avoids_bind (avoids_ensure _) fun _ => avoids_bind (avoids_look _) fun _ => ?_
  exact avoids_bind (avoids_look _) fun _ => avoids_pure _

end Avoidance

section Cleanup

theorem ManifestRecord.Names.refers {root : ManifestRecord} {name : Artifact}
    (h : root.Names name) (hne : ∀ slot, name ≠ .manifest slot) : root.Refers name := by
  rcases h with hrefers | ⟨slot, heq⟩
  · exact hrefers
  · exact absurd heq (hne slot)

variable {manifests : ManifestSlots} {root : ManifestRecord} (hroot : root ∈ manifests.retained)
include hroot

/-- What a manifest refers to is not removed with what no manifest refers to. -/
theorem avoids_removeUnreferencedRetrySlots :
    Action.Avoids root.Names (removeUnreferencedRetrySlots manifests) := by
  refine avoids_removeEach ?_
  intro name hname hnamed
  obtain ⟨slot, hslot, rfl⟩ := List.mem_map.mp hname
  rw [unreferenced, List.mem_filter, decide_eq_true_eq] at hslot
  have hrefers : slot = root.retry.state.slot := hnamed.refers (by simp)
  exact hslot.2 (List.mem_map.mpr ⟨root, hroot, hrefers.symm⟩)

theorem avoids_removeUnreferencedCatalogSlots :
    Action.Avoids root.Names (removeUnreferencedCatalogSlots manifests) := by
  refine avoids_removeEach ?_
  intro name hname hnamed
  obtain ⟨slot, hslot, rfl⟩ := List.mem_map.mp hname
  rw [unreferenced, List.mem_filter, decide_eq_true_eq] at hslot
  obtain ⟨reference, hreference, rfl⟩ := hnamed.refers (by simp)
  refine hslot.2 (List.mem_filterMap.mpr ⟨root, hroot, ?_⟩)
  rw [Option.mem_def.mp hreference]
  rfl

theorem mem_recoverySlots {slot : UInt8} (h : ∃ reference ∈ root.recovery, slot = reference.slot) :
    slot ∈ manifests.recoverySlots := by
  obtain ⟨reference, hreference, rfl⟩ := h
  exact List.mem_map.mpr ⟨reference, List.mem_filterMap.mpr ⟨root, hroot, hreference⟩, rfl⟩

theorem avoids_removeUnreferencedRecoverySlots (storeId : StoreId) :
    Action.Avoids root.Names (removeUnreferencedRecoverySlots manifests storeId) := by
  refine avoids_bind (avoids_look _) fun generations => ?_
  have hslots : ∀ slot ∈ unreferenced manifests.recoverySlots, ¬root.Names (.recovery slot) := by
    intro slot hslot hnamed
    rw [unreferenced, List.mem_filter, decide_eq_true_eq] at hslot
    exact hslot.2 (mem_recoverySlots hroot (hnamed.refers (by simp)))
  generalize unreferenced manifests.recoverySlots = remaining at hslots
  induction remaining with
  | nil => exact avoids_pure _
  | cons slot rest ih =>
    have hrest := ih fun other hother => hslots other (List.mem_cons_of_mem _ hother)
    rw [removeRecoverySlots]
    refine avoids_bind (avoids_look _) fun found => ?_
    cases found with
    | none => exact hrest
    | some bytes =>
      refine avoids_bind (avoids_ensure _) fun _ => avoids_bind (avoids_ensure _) fun _ => ?_
      exact avoids_bind (avoids_remove (hslots slot List.mem_cons_self)) fun _ => hrest

end Cleanup

end Historian
