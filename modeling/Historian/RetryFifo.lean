import Historian.Fifo
import Historian.RetryRoot
import Historian.Readmission

namespace Historian

open Checks

/-- The tiers after all of `outcomes`: the last ones are replayed and those before them guarded. -/
def RetryTiers.window (options : RetryPersistenceOptions) (outcomes : List RetryReplayOutcome) :
    RetryTiers :=
  ⟨outcomes.rtake options.replayCapacity,
    ((outcomes.rdrop options.replayCapacity).rtake options.guardCapacity).map (·.promoted)⟩

theorem RetryTiers.push_window (options : RetryPersistenceOptions)
    (outcomes : List RetryReplayOutcome) (outcome : RetryReplayOutcome) :
    (RetryTiers.window options outcomes).push options outcome =
      RetryTiers.window options (outcomes ++ [outcome]) := by
  have hlength : (outcomes.rtake options.replayCapacity ++ [outcome]).length =
      min options.replayCapacity outcomes.length + 1 := by
    rw [List.length_append, Fifo.length_rtake, List.length_singleton]
  unfold RetryTiers.window RetryTiers.push
  dsimp only
  by_cases hfull : options.replayCapacity <
      (outcomes.rtake options.replayCapacity ++ [outcome]).length
  · rw [if_pos hfull]
    cases hsplit : outcomes.rtake options.replayCapacity ++ [outcome] with
    | nil => simp at hsplit
    | cons oldest kept =>
      obtain ⟨hkept, hbefore⟩ := Fifo.rtake_split (by omega) hsplit
      have hguard := Fifo.rtake_concat options.guardCapacity
        ((outcomes.rdrop options.replayCapacity).map (·.promoted)) oldest.promoted
      rw [hkept, hbefore, Fifo.map_rtake, Fifo.map_rtake, List.map_append, List.map_cons,
        List.map_nil, ← hguard]
      dsimp only
      split <;> rfl
  · have hnew : (outcomes ++ [outcome]).length ≤ options.replayCapacity := by
      rw [List.length_append, List.length_singleton]
      omega
    rw [if_neg hfull, Fifo.rtake_of_length_le (by omega), Fifo.rtake_of_length_le hnew,
      Fifo.rdrop_of_length_le (by omega), Fifo.rdrop_of_length_le hnew]

/-- The outcomes that a batch makes durable, all under the commit of the batch. -/
def batchOutcomes (pending : List PendingRetryOutcome) (committed : ManifestCommit) :
    List RetryReplayOutcome :=
  pending.map fun entry => ⟨entry.qualification, entry.appendSequence, entry.endOffset, committed⟩

/-- The loop over a batch keeps the window, also where it drops entries of the batch itself. -/
theorem advanceEntries_window {snapshot : RetryStateSnapshot} {committed : ManifestCommit}
    {previous : U64} {outcomes : List RetryReplayOutcome} {result : RetryTiers}
    {pending : List PendingRetryOutcome}
    (h : advanceEntries snapshot committed previous (RetryTiers.window snapshot.options outcomes)
      pending = .ok result) :
    result = RetryTiers.window snapshot.options (outcomes ++ batchOutcomes pending committed) := by
  induction pending generalizing previous outcomes with
  | nil =>
    cases h
    simp [batchOutcomes]
  | cons entry rest ih =>
    rw [advanceEntries, then_ok] at h
    have hrest := h.2
    dsimp only at hrest
    rw [RetryTiers.push_window] at hrest
    rw [ih hrest, List.append_assoc]
    rfl

/-- The calls that a store makes on its retry state. -/
inductive RetryCall where
  | advance (reference : RetryStateReference) (pending : List PendingRetryOutcome)
      (committed : ManifestCommit)
  | classify (qualification : RetryQualification)

def RetryCall.outcomes : RetryCall → List RetryReplayOutcome
  | .advance _ pending committed => batchOutcomes pending committed
  | .classify _ => []

/-- The snapshot that a store goes on with. A lookup answers from the snapshot and keeps it. -/
def RetryStateSnapshot.answer (snapshot : RetryStateSnapshot) :
    RetryCall → Except RetryStateCodecError (Option RetryStateMatch × RetryStateSnapshot)
  | .advance reference pending committed => do
    let candidate ← snapshot.advance reference pending committed
    pure (none, candidate)
  | .classify qualification => .ok (some (snapshot.classify qualification), snapshot)

/-- A run of accepted calls. -/
inductive RetryRun (start : RetryStateSnapshot) : List RetryCall → RetryStateSnapshot → Prop
  | start : RetryRun start [] start
  | call {calls : List RetryCall} {snapshot next : RetryStateSnapshot} {call : RetryCall}
      {found : Option RetryStateMatch} (run : RetryRun start calls snapshot)
      (accepted : snapshot.answer call = .ok (found, next)) : RetryRun start (calls ++ [call]) next

theorem RetryStateSnapshot.answer_window {snapshot next : RetryStateSnapshot} {call : RetryCall}
    {found : Option RetryStateMatch} {outcomes : List RetryReplayOutcome}
    (h : snapshot.answer call = .ok (found, next))
    (hwindow : ⟨snapshot.replay, snapshot.guard⟩ = RetryTiers.window snapshot.options outcomes) :
    next.options = snapshot.options ∧
      ⟨next.replay, next.guard⟩ =
        RetryTiers.window snapshot.options (outcomes ++ call.outcomes) := by
  cases call with
  | advance reference pending committed =>
    simp only [RetryStateSnapshot.answer, bind_ok, pure_ok, Prod.mk.injEq] at h
    obtain ⟨candidate, hadvance, -, rfl⟩ := h
    obtain ⟨-, hoptions, -, hentries, -⟩ := RetryStateSnapshot.advance_ok hadvance
    rw [hwindow] at hentries
    exact ⟨hoptions, advanceEntries_window hentries⟩
  | classify qualification =>
    simp only [RetryStateSnapshot.answer, Except.ok.injEq, Prod.mk.injEq] at h
    obtain ⟨-, rfl⟩ := h
    simp [RetryCall.outcomes, hwindow]

theorem RetryRun.window {start snapshot : RetryStateSnapshot} {calls : List RetryCall}
    (h : RetryRun start calls snapshot) (hreplay : start.replay = []) (hguard : start.guard = []) :
    snapshot.options = start.options ∧
      ⟨snapshot.replay, snapshot.guard⟩ =
        RetryTiers.window start.options (calls.flatMap (·.outcomes)) := by
  induction h with
  | start => simp [hreplay, hguard, RetryTiers.window]
  | call run accepted ih =>
    obtain ⟨hoptions, hwindow⟩ := ih
    rw [← hoptions] at hwindow
    obtain ⟨hnext, htiers⟩ := RetryStateSnapshot.answer_window accepted hwindow
    rw [List.flatMap_append, List.flatMap_singleton, ← hoptions]
    exact ⟨hnext, htiers⟩

/-- After any run of accepted calls from the empty state, whatever the division into batches, the
replay tier holds the last outcomes and the guard tier those before them, each at most up to its
capacity. Every outcome is under the commit of its batch, and lookups leave no trace. -/
theorem retry_window (storeId : StoreId) (options : RetryPersistenceOptions)
    (start snapshot : RetryStateSnapshot) (calls : List RetryCall)
    (hstart : start = .empty storeId options ∨
      ∃ reference, start = .emptyPersisted storeId options reference)
    (hrun : RetryRun start calls snapshot) :
    let outcomes := calls.flatMap (·.outcomes)
    snapshot.replay = outcomes.rtake options.replayCapacity ∧
      snapshot.guard = ((outcomes.rdrop options.replayCapacity).rtake options.guardCapacity).map
        (·.promoted) ∧
      snapshot.replay.length = min outcomes.length options.replayCapacity ∧
      snapshot.guard.length =
        min (outcomes.length - options.replayCapacity) options.guardCapacity := by
  intro outcomes
  have hempty : start.replay = [] ∧ start.guard = [] ∧ start.options = options := by
    rcases hstart with rfl | ⟨reference, rfl⟩
    · exact ⟨rfl, rfl, rfl⟩
    · exact ⟨rfl, rfl, rfl⟩
  obtain ⟨hreplay, hguard, hoptions⟩ := hempty
  have hwindow := (hrun.window hreplay hguard).2
  rw [hoptions] at hwindow
  have htiers := RetryTiers.mk.inj hwindow
  refine ⟨htiers.1, htiers.2, ?_, ?_⟩
  · rw [htiers.1, Fifo.length_rtake, Nat.min_comm]
  · rw [htiers.2, List.length_map, Fifo.length_rtake, Fifo.length_rdrop, Nat.min_comm]

section Samples

def sampleTierOptions : RetryPersistenceOptions := ⟨1, 1, by decide, by decide, by decide⟩

def sampleRetryReference : RetryStateReference := ⟨1, 2⟩

/-- A commit of the first generation whose cutoff is the end of three frames. -/
def sampleCommit : ManifestCommit :=
  ⟨2, 1, 0, ⟨⟨sampleIdentity 1, 1⟩, 2, 3, 400⟩, sampleRetryReference, 0, none⟩

def samplePending : List PendingRetryOutcome :=
  [⟨sampleRetry 'a' firstKey_printable, 1, 200⟩, ⟨sampleRetry 'b' secondKey_printable, 2, 300⟩,
    ⟨sampleRetry 'c' thirdKey_printable, 3, 400⟩]

def sampleCalls : List RetryCall :=
  [.advance sampleRetryReference samplePending sampleCommit,
    .classify (sampleRetry 'b' secondKey_printable)]

def sampleTiers : RetryStateSnapshot :=
  ⟨sampleIdentity 1, sampleTierOptions, some sampleRetryReference,
    [⟨sampleRetry 'c' thirdKey_printable, 3, 400, sampleCommit⟩],
    [⟨sampleRetry 'b' secondKey_printable, 2⟩]⟩

/-- A batch of three entries promotes its second one and drops its first one again. -/
theorem retry_window_sample :
    RetryRun (.empty (sampleIdentity 1) sampleTierOptions) sampleCalls sampleTiers ∧
      sampleTiers.replay.length = min (sampleCalls.flatMap (·.outcomes)).length 1 ∧
      sampleTiers.replay = (sampleCalls.flatMap (·.outcomes)).rtake 1 := by
  have hadvance : (RetryStateSnapshot.empty (sampleIdentity 1) sampleTierOptions).answer
      (.advance sampleRetryReference samplePending sampleCommit) = .ok (none, sampleTiers) := by
    decide +kernel
  have hclassify : sampleTiers.answer (.classify (sampleRetry 'b' secondKey_printable)) =
      .ok (some .expired, sampleTiers) := by decide +kernel
  have hrun : RetryRun (.empty (sampleIdentity 1) sampleTierOptions) sampleCalls sampleTiers :=
    RetryRun.call (RetryRun.call .start hadvance) hclassify
  have hwindow := retry_window (sampleIdentity 1) sampleTierOptions _ _ _ (Or.inl rfl) hrun
  exact ⟨hrun, hwindow.2.2.1, hwindow.1⟩

end Samples

end Historian
