import Historian.IngressSections

namespace Historian

open Checks IngressState

/-- The slot and qualification that a submission works for. -/
def SubmitPhase.owns : SubmitPhase → Option (Nat × RetryQualification)
  | .reserved command slotIndex _ _ => some (slotIndex, command.admission.retry)
  | .prepared command slotIndex _ _ => some (slotIndex, command.admission.retry)
  | .rollback command slotIndex _ => some (slotIndex, command.admission.retry)
  | _ => none

/-- What an encoded submission carries is its own command. -/
def SubmitPhase.Encoded : SubmitPhase → Prop
  | .prepared command _ _ encoded => encoded.admission = command.admission
  | _ => True

/-- Keys are held once, every thread works on a slot of its own, and a command that is not yet
appended has a key that no tier retains. -/
structure Runtime.Inv (runtime : Runtime) : Prop where
  keys : runtime.shared.KeysDistinct
  matched : runtime.shared.PreparedMatches
  submits : ∀ (i : Nat) (phase : SubmitPhase) (slot : Nat) (q : RetryQualification),
    runtime.submits[i]? = some phase → phase.owns = some (slot, q) →
      runtime.shared.Owned slot q .preparing
  submitUnique : ∀ (i j : Nat) (a b : SubmitPhase) (slot : Nat) (q r : RetryQualification),
    runtime.submits[i]? = some a → runtime.submits[j]? = some b → a.owns = some (slot, q) →
      b.owns = some (slot, r) → i = j
  encoded : ∀ (i : Nat) (phase : SubmitPhase), runtime.submits[i]? = some phase → phase.Encoded
  writer : ∀ (k : Nat) (f : InFlightCommand), runtime.writer[k]? = some f →
    runtime.shared.Owned f.slotIndex f.retry .inFlight
  writerUnique : ∀ (j k : Nat) (f g : InFlightCommand), runtime.writer[j]? = some f →
    runtime.writer[k]? = some g → f.slotIndex = g.slotIndex → j = k
  taken : ∀ (k : Nat) (f : InFlightCommand), runtime.writer[k]? = some f → f.isTaken = true →
    ∀ q ∈ runtime.shared.retry.retained, q.scopeKey ≠ f.retry.scopeKey

namespace Runtime

/-- A change of the shared state that keeps away from every owned slot. -/
theorem Inv.setShared {runtime : Runtime} (h : runtime.Inv) {next : IngressState}
    {touched : Nat → Prop} (hkeys : next.KeysDistinct) (hmatched : next.PreparedMatches)
    (hframe : Frame runtime.shared next touched)
    (hsubmits : ¬runtime.shared.Stopped → ∀ (i : Nat) (phase : SubmitPhase) (slot : Nat)
      (q : RetryQualification), runtime.submits[i]? = some phase → phase.owns = some (slot, q) →
      ¬touched slot)
    (hwriter : ¬runtime.shared.Stopped → ∀ (k : Nat) (f : InFlightCommand),
      runtime.writer[k]? = some f → ¬touched f.slotIndex)
    (htaken : ∀ (k : Nat) (f : InFlightCommand), runtime.writer[k]? = some f → f.isTaken = true →
      ∀ q ∈ next.retry.retained, q.scopeKey ≠ f.retry.scopeKey) :
    ({ runtime with shared := next } : Runtime).Inv where
  keys := hkeys
  matched := hmatched
  submits := by
    intro i phase slot q hi howns
    exact (h.submits i phase slot q hi howns).frame hframe fun hlive =>
      hsubmits hlive i phase slot q hi howns
  submitUnique := h.submitUnique
  encoded := h.encoded
  writer := by
    intro k f hk
    exact (h.writer k f hk).frame hframe fun hlive => hwriter hlive k f hk
  writerUnique := h.writerUnique
  taken := htaken

/-- A change that stops everything, or touches no slot at all. -/
theorem Inv.setQuiet {runtime : Runtime} (h : runtime.Inv) {next : IngressState}
    (hkeys : next.KeysDistinct) (hmatched : next.PreparedMatches)
    (hframe : Frame runtime.shared next fun _ => False)
    (hretry : next.retry = runtime.shared.retry) :
    ({ runtime with shared := next } : Runtime).Inv := by
  apply h.setShared hkeys hmatched hframe
  · intro _ _ _ _ _ _ _ hfalse
    exact hfalse
  · intro _ _ _ _ hfalse
    exact hfalse
  · rw [hretry]
    exact h.taken

theorem Inv.setStopped {runtime : Runtime} (h : runtime.Inv) {next : IngressState}
    (hstopped : next.Stopped) (hretry : next.retry = runtime.shared.retry) :
    ({ runtime with shared := next } : Runtime).Inv :=
  h.setQuiet (h.keys.stopped hstopped hretry) (PreparedMatches.stopped hstopped)
    ⟨fun _ => hstopped, Or.inl hstopped⟩ hretry

theorem Inv.setUnchanged {runtime : Runtime} (h : runtime.Inv) {next : IngressState}
    (hslots : next.slots = runtime.shared.slots) (hretry : next.retry = runtime.shared.retry)
    (hclosed : runtime.shared.closed = true → next.closed = true) :
    ({ runtime with shared := next } : Runtime).Inv :=
  h.setQuiet (h.keys.of_slots hslots hretry) (h.matched.of_slots hslots)
    (frame_of_slots hslots hclosed) hretry

/-- A submission moves on; a slot it now owns is in its phase and nobody else's. -/
theorem Inv.setSubmit {runtime : Runtime} (h : runtime.Inv) {i : Nat} {phase : SubmitPhase}
    (howned : ∀ slot q, phase.owns = some (slot, q) → runtime.shared.Owned slot q .preparing)
    (hunique : ∀ slot q, phase.owns = some (slot, q) → ∀ (j : Nat) (b : SubmitPhase)
      (r : RetryQualification), runtime.submits[j]? = some b → b.owns = some (slot, r) → j = i)
    (hencoded : phase.Encoded) : (runtime.setSubmit i phase).Inv where
  keys := h.keys
  matched := h.matched
  submits := by
    intro j b slot q hj hb
    simp only [Runtime.setSubmit, List.getElem?_set] at hj
    split at hj
    next =>
      split at hj
      next =>
        cases hj
        exact howned slot q hb
      next => cases hj
    next => exact h.submits j b slot q hj hb
  submitUnique := by
    intro j k a b slot q r hj hk ha hb
    simp only [Runtime.setSubmit, List.getElem?_set] at hj hk
    split at hj
    next hij =>
      split at hk
      next hik => exact hij.symm.trans hik
      next =>
        split at hj
        next =>
          cases hj
          exact hij.symm.trans (hunique slot q ha k b r hk hb).symm
        next => cases hj
    next =>
      split at hk
      next hik =>
        split at hk
        next =>
          cases hk
          exact (hunique slot r hb j a q hj ha).trans hik
        next => cases hk
      next => exact h.submitUnique j k a b slot q r hj hk ha hb
  encoded := by
    intro j b hj
    simp only [Runtime.setSubmit, List.getElem?_set] at hj
    split at hj
    next =>
      split at hj
      next =>
        cases hj
        exact hencoded
      next => cases hj
    next => exact h.encoded j b hj
  writer := h.writer
  writerUnique := h.writerUnique
  taken := h.taken

/-- A submission that owns nothing afterwards. -/
theorem Inv.setSubmitFree {runtime : Runtime} (h : runtime.Inv) {i : Nat} {phase : SubmitPhase}
    (hfree : phase.owns = none) (hencoded : phase.Encoded) :
    (runtime.setSubmit i phase).Inv := by
  apply h.setSubmit
  · intro slot q howns
    rw [hfree] at howns
    cases howns
  · intro slot q howns
    rw [hfree] at howns
    cases howns
  · exact hencoded

/-- The commands left after one is removed stand at other positions of the writer's list. -/
theorem getElem?_eraseIdx_ne {commands : List InFlightCommand} {k j : Nat} {g : InFlightCommand}
    (h : (commands.eraseIdx k)[j]? = some g) :
    ∃ i, i ≠ k ∧ commands[i]? = some g ∧ (i = j ∧ j < k ∨ i = j + 1 ∧ k ≤ j) := by
  rw [List.getElem?_eraseIdx] at h
  split at h
  next hlt => exact ⟨j, by omega, h, Or.inl ⟨rfl, hlt⟩⟩
  next hge => exact ⟨j + 1, by omega, h, Or.inr ⟨rfl, by omega⟩⟩

theorem Inv.eraseWriter {runtime : Runtime} (h : runtime.Inv) (k : Nat) :
    ({ runtime with writer := runtime.writer.eraseIdx k } : Runtime).Inv where
  keys := h.keys
  matched := h.matched
  submits := h.submits
  submitUnique := h.submitUnique
  encoded := h.encoded
  writer := by
    intro j g hj
    obtain ⟨i, -, hi, -⟩ := getElem?_eraseIdx_ne hj
    exact h.writer i g hi
  writerUnique := by
    intro j j' f g hj hj' hsame
    obtain ⟨i, -, hi, hpos⟩ := getElem?_eraseIdx_ne hj
    obtain ⟨i', -, hi', hpos'⟩ := getElem?_eraseIdx_ne hj'
    have heq := h.writerUnique i i' f g hi hi' hsame
    omega
  taken := by
    intro j g hj
    obtain ⟨i, -, hi, -⟩ := getElem?_eraseIdx_ne hj
    exact h.taken i g hi

/-- A command in flight moves on with the same slot and qualification. -/
theorem Inv.setWriter {runtime : Runtime} (h : runtime.Inv) {k : Nat} {f : InFlightCommand}
    (g : InFlightCommand) (hf : runtime.writer[k]? = some f) (hslot : g.slotIndex = f.slotIndex)
    (hretry : g.retry = f.retry) (htaken : g.isTaken = true → f.isTaken = true)
    (journal : List (RetryQualification × AppendIdentity)) :
    ({ runtime with writer := runtime.writer.set k g, journal := journal } : Runtime).Inv := by
  have hget : ∀ (j : Nat) (e : InFlightCommand), (runtime.writer.set k g)[j]? = some e →
      ∃ e', runtime.writer[j]? = some e' ∧ e.slotIndex = e'.slotIndex ∧ e.retry = e'.retry ∧
        (e.isTaken = true → e'.isTaken = true) := by
    intro j e he
    rw [List.getElem?_set] at he
    split at he
    next hkj =>
      subst hkj
      split at he
      next =>
        cases he
        exact ⟨f, hf, hslot, hretry, htaken⟩
      next => cases he
    next => exact ⟨e, he, rfl, rfl, id⟩
  refine ⟨h.keys, h.matched, h.submits, h.submitUnique, h.encoded, ?_, ?_, ?_⟩
  · intro j e he
    obtain ⟨e', he', hs, hr, -⟩ := hget j e he
    rw [hs, hr]
    exact h.writer j e' he'
  · intro i j a b ha hb hsame
    obtain ⟨a', ha', hsa, -, -⟩ := hget i a ha
    obtain ⟨b', hb', hsb, -, -⟩ := hget j b hb
    exact h.writerUnique i j a' b' ha' hb' (hsa.symm.trans (hsame.trans hsb))
  · intro j e he ht q hq
    obtain ⟨e', he', -, hr, ht'⟩ := hget j e he
    rw [hr]
    exact h.taken j e' he' (ht' ht) q hq

theorem Inv.pushWriter {runtime : Runtime} (h : runtime.Inv) {g : InFlightCommand}
    (howned : runtime.shared.Owned g.slotIndex g.retry .inFlight)
    (hunique : ∀ (k : Nat) (f : InFlightCommand), runtime.writer[k]? = some f →
      f.slotIndex ≠ g.slotIndex)
    (hfresh : ∀ q ∈ runtime.shared.retry.retained, q.scopeKey ≠ g.retry.scopeKey) :
    ({ runtime with writer := runtime.writer ++ [g] } : Runtime).Inv := by
  have hget : ∀ (j : Nat) (e : InFlightCommand), (runtime.writer ++ [g])[j]? = some e →
      runtime.writer[j]? = some e ∨ j = runtime.writer.length ∧ e = g := by
    intro j e he
    rw [List.getElem?_append] at he
    split at he
    next => exact Or.inl he
    next hge =>
      rw [List.getElem?_singleton] at he
      split at he
      next hzero =>
        cases he
        exact Or.inr ⟨by omega, rfl⟩
      next => cases he
  refine ⟨h.keys, h.matched, h.submits, h.submitUnique, h.encoded, ?_, ?_, ?_⟩
  · intro j e he
    obtain he | ⟨-, rfl⟩ := hget j e he
    · exact h.writer j e he
    · exact howned
  · intro i j a b ha hb hsame
    obtain ha' | ⟨hi, rfl⟩ := hget i a ha
    · obtain hb' | ⟨-, rfl⟩ := hget j b hb
      · exact h.writerUnique i j a b ha' hb' hsame
      · exact absurd hsame (hunique i a ha')
    · obtain hb' | ⟨hj, -⟩ := hget j b hb
      · exact absurd hsame.symm (hunique j b hb')
      · exact hi.trans hj.symm
  · intro j e he ht q hq
    obtain he | ⟨-, rfl⟩ := hget j e he
    · exact h.taken j e he ht q hq
    · exact hfresh q hq

/-- No owned slot is in a phase that no thread works in. -/
theorem Inv.not_owned {runtime : Runtime} (h : runtime.Inv) {slotIndex : Nat} {slot : Slot}
    (hslot : runtime.shared.slot? slotIndex = some slot) :
    (slot.phase ≠ .preparing → ∀ (i : Nat) (phase : SubmitPhase) (s : Nat)
      (q : RetryQualification), runtime.submits[i]? = some phase → phase.owns = some (s, q) →
        s ≠ slotIndex) ∧
    (slot.phase ≠ .inFlight → ∀ (k : Nat) (f : InFlightCommand), runtime.writer[k]? = some f →
      f.slotIndex ≠ slotIndex) := by
  have hlive : ¬runtime.shared.Stopped := by
    rintro ⟨-, hnone⟩
    rw [hnone slotIndex] at hslot
    cases hslot
  have hself : runtime.shared.Owned slotIndex slot.qualification slot.phase :=
    Or.inr ⟨slot, hslot, rfl, rfl⟩
  refine ⟨?_, ?_⟩
  · intro hphase i phase s q hi howns
    exact (h.submits i phase s q hi howns).ne hself (Ne.symm hphase) hlive
  · intro hphase k f hk
    exact (h.writer k f hk).ne hself (Ne.symm hphase) hlive

end Runtime

end Historian
