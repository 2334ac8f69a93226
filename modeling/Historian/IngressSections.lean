import Historian.IngressFrame

namespace Historian

open Checks

namespace IngressState

/-- Membership among the occupied slots, by index. -/
theorem mem_occupied {state : IngressState} {slot : Slot} :
    slot ∈ state.occupied ↔ ∃ i, state.slot? i = some slot := by
  unfold occupied slot?
  rw [List.mem_filterMap]
  constructor
  · rintro ⟨entry, hm, rfl⟩
    obtain ⟨i, hi⟩ := List.getElem?_of_mem hm
    exact ⟨i, by rw [hi]; rfl⟩
  · rintro ⟨i, hi⟩
    cases hs : state.slots[i]? with
    | none =>
      rw [hs] at hi
      cases hi
    | some entry =>
      rw [hs] at hi
      exact ⟨entry, List.mem_of_getElem? hs, hi⟩

theorem classifySlots_none {qualification : RetryQualification} {slots : List (Option Slot)} :
    classifySlots qualification slots = none ↔
      ∀ slot ∈ slots.filterMap id, slot.qualification.classify qualification = .distinct := by
  induction slots with
  | nil => simp [classifySlots]
  | cons entry rest ih =>
    cases entry with
    | none => simpa [classifySlots] using ih
    | some slot =>
      rw [show (some slot :: rest).filterMap id = slot :: rest.filterMap id from rfl,
        List.forall_mem_cons, ← ih]
      simp only [classifySlots]
      cases hc : slot.qualification.classify qualification <;> simp

/-- A slot answers its own key: with its receipt when the content is the same. -/
theorem classifySlots_mem {qualification : RetryQualification} {slots : List (Option Slot)}
    (hd : PairwiseDistinct ((slots.filterMap id).map (·.qualification))) {slot : Slot}
    (hm : slot ∈ slots.filterMap id)
    (hs : slot.qualification.classify qualification ≠ .distinct) :
    classifySlots qualification slots =
      some (if slot.qualification = qualification then some slot.terminal else none) := by
  induction slots with
  | nil => cases hm
  | cons entry rest ih =>
    cases entry with
    | none => exact ih hd hm
    | some head =>
      obtain ⟨hhead, hrest⟩ := List.pairwise_cons.mp hd
      rw [show (some head :: rest).filterMap id = head :: rest.filterMap id from rfl,
        List.mem_cons] at hm
      simp only [classifySlots]
      obtain rfl | hm := hm
      · cases hc : slot.qualification.classify qualification with
        | equivalent => simp [RetryQualification.classify_equivalent.mp hc]
        | conflict => simp [(RetryQualification.classify_conflict.mp hc).2]
        | distinct => exact absurd hc hs
      · have hdistinct : head.qualification.classify qualification = .distinct :=
          RetryQualification.distinct_of_same
            (hhead slot.qualification (List.mem_map_of_mem hm)) hs
        rw [hdistinct]
        exact ih hrest hm

/-- A key that neither the slots nor the tiers hold. -/
def FreshKey (state : IngressState) (qualification : RetryQualification) : Prop :=
  (∀ i slot, state.slot? i = some slot →
    slot.qualification.scopeKey ≠ qualification.scopeKey) ∧
  ∀ q ∈ state.retry.retained, q.scopeKey ≠ qualification.scopeKey

/-- The slot that a reservation writes. -/
structure Reserves (state next : IngressState) (command : IngressCommand) (slotIndex : Nat) :
    Prop where
  wasOpen : state.closed = false
  inRange : slotIndex < state.slots.length
  wasFree : state.slot? slotIndex = none
  fresh : state.FreshKey command.admission.retry
  written : ∃ slot, slot.qualification = command.admission.retry ∧ slot.phase = .preparing ∧
    slot.prepared = none ∧ next.slots = state.slots.set slotIndex (some slot)
  retry : next.retry = state.retry
  closed : next.closed = state.closed

/-- The slot of a fresh command, as its reservation writes it. -/
def freshSlot (state : IngressState) (command : IngressCommand) (frameLen : Nat) : Slot :=
  ⟨command.admission.retry, none, none, state.receipts.length, .preparing, frameLen,
    command.priority, command.barrier, none⟩

/-- What a reservation needs of the state that it takes a slot from. -/
structure CanTake (state : IngressState) (command : IngressCommand) (slotIndex frameLen : Nat) :
    Prop where
  wasOpen : state.closed = false
  inRange : slotIndex < state.slots.length
  wasFree : state.slot? slotIndex = none
  fresh : state.FreshKey command.admission.retry
  room : state.canReserve command.priority frameLen = true

/-- What the reserve section does: it ends the submission, at most with the receipt of a replayed
outcome, or it takes a free slot for a fresh key. -/
theorem reserve_next {state next : IngressState} {command : IngressCommand}
    {measured : Except JournalV1Error Nat} {reservation : Reservation}
    (h : state.reserve command measured = (reservation, next)) :
    (∃ result, reservation = .finished result ∧ (next = state ∨
      ∃ outcome, state.retry.classify command.admission.retry = .replay outcome ∧
        next = (state.replayed outcome).2)) ∨
    ∃ slotIndex frameLen, measured = .ok frameLen ∧
      reservation = .reserved slotIndex state.receipts.length frameLen ∧
      state.CanTake command slotIndex frameLen ∧
      next = { state.setSlot slotIndex (some (state.freshSlot command frameLen)) with
        reservedBytes := state.reservedBytes + frameLen
        receipts := state.receipts ++ [.pending] } := by
  unfold reserve at h
  split at h
  next =>
    cases h
    exact Or.inl ⟨_, rfl, Or.inl rfl⟩
  next hrefusal =>
    have hopen : state.closed = false := by
      unfold refusal at hrefusal
      split at hrefusal
      next => cases hrefusal
      next hclosed => simpa using hclosed
    split at h
    next =>
      cases h
      exact Or.inl ⟨_, rfl, Or.inl rfl⟩
    next frameLen =>
      split at h
      next =>
        cases h
        exact Or.inl ⟨_, rfl, Or.inl rfl⟩
      next =>
        cases h
        exact Or.inl ⟨_, rfl, Or.inl rfl⟩
      next hslots =>
        split at h
        next outcome hreplay =>
          cases h
          exact Or.inl ⟨_, rfl, Or.inr ⟨outcome, hreplay, rfl⟩⟩
        next =>
          cases h
          exact Or.inl ⟨_, rfl, Or.inl rfl⟩
        next =>
          cases h
          exact Or.inl ⟨_, rfl, Or.inl rfl⟩
        next hretry =>
          have hfresh : state.FreshKey command.admission.retry := by
            refine ⟨?_, ?_⟩
            · intro i slot hi
              exact RetryQualification.classify_distinct.mp
                (classifySlots_none.mp hslots slot (mem_occupied.mpr ⟨i, hi⟩))
            · intro q hq
              exact RetryQualification.classify_distinct.mp
                (RetryStateSnapshot.classify_fresh.mp hretry q hq)
          unfold reserveFresh at h
          split at h
          next =>
            cases h
            exact Or.inl ⟨_, rfl, Or.inl rfl⟩
          next =>
            split at h
            next =>
              cases h
              exact Or.inl ⟨_, rfl, Or.inl rfl⟩
            next hroom =>
              split at h
              next =>
                cases h
                exact Or.inl ⟨_, rfl, Or.inl rfl⟩
              next slotIndex hindex =>
                obtain ⟨hlt, hnone, -⟩ := List.findIdx?_eq_some_iff_getElem.mp hindex
                cases h
                refine Or.inr ⟨slotIndex, frameLen, rfl, rfl, ⟨hopen, hlt, ?_, hfresh,
                  not_not.mp hroom⟩, rfl⟩
                unfold slot?
                rw [List.getElem?_eq_getElem hlt, Option.isNone_iff_eq_none.mp hnone]
                rfl

theorem reserve_cases {state next : IngressState} {command : IngressCommand}
    {measured : Except JournalV1Error Nat} {reservation : Reservation}
    (h : state.reserve command measured = (reservation, next)) :
    (∃ result, reservation = .finished result ∧ next.slots = state.slots ∧
      next.retry = state.retry ∧ next.closed = state.closed) ∨
    ∃ slotIndex terminal frameLen, reservation = .reserved slotIndex terminal frameLen ∧
      state.Reserves next command slotIndex := by
  obtain ⟨result, rfl, rfl | ⟨_, -, rfl⟩⟩ | ⟨slotIndex, frameLen, -, rfl, htakes, rfl⟩ :=
    reserve_next h
  · exact Or.inl ⟨result, rfl, rfl, rfl, rfl⟩
  · exact Or.inl ⟨result, rfl, rfl, rfl, rfl⟩
  · exact Or.inr ⟨slotIndex, _, frameLen, rfl, htakes.wasOpen, htakes.inRange, htakes.wasFree,
      htakes.fresh, ⟨_, rfl, rfl, rfl, rfl⟩, rfl, rfl⟩

theorem Reserves.slot? {state next : IngressState} {command : IngressCommand} {slotIndex : Nat}
    (h : state.Reserves next command slotIndex) :
    ∃ slot, slot.qualification = command.admission.retry ∧ slot.phase = .preparing ∧
      slot.prepared = none ∧
      ∀ j, next.slot? j = if slotIndex = j then some slot else state.slot? j := by
  obtain ⟨slot, hq, hphase, hprepared, hslots⟩ := h.written
  refine ⟨slot, hq, hphase, hprepared, ?_⟩
  intro j
  unfold IngressState.slot?
  rw [hslots, slot?_of_set]
  simp [h.inRange]

theorem Reserves.frame {state next : IngressState} {command : IngressCommand} {slotIndex : Nat}
    (h : state.Reserves next command slotIndex) : Frame state next (· = slotIndex) := by
  obtain ⟨slot, -, -, -, hslots⟩ := h.slot?
  refine ⟨?_, Or.inr ?_⟩
  · rintro ⟨hclosed, -⟩
    rw [h.wasOpen] at hclosed
    cases hclosed
  · intro j hj
    rw [hslots, if_neg (Ne.symm hj)]

theorem Reserves.owned {state next : IngressState} {command : IngressCommand} {slotIndex : Nat}
    (h : state.Reserves next command slotIndex) :
    next.Owned slotIndex command.admission.retry .preparing := by
  obtain ⟨slot, hq, hphase, -, hslots⟩ := h.slot?
  exact Or.inr ⟨slot, by rw [hslots, if_pos rfl], hphase, hq⟩

theorem KeysDistinct.reserves {state next : IngressState} {command : IngressCommand}
    {slotIndex : Nat} (hk : state.KeysDistinct) (h : state.Reserves next command slotIndex) :
    next.KeysDistinct := by
  obtain ⟨slot, hq, -, -, hslots⟩ := h.slot?
  obtain ⟨hslotsFresh, htiersFresh⟩ := h.fresh
  constructor
  · intro i j a b ha hb hij
    rw [hslots] at ha hb
    split at ha
    next hi =>
      split at hb
      next hj => exact absurd (hi.symm.trans hj) hij
      next =>
        cases ha
        rw [hq]
        exact Ne.symm (hslotsFresh j b hb)
    next =>
      split at hb
      next =>
        cases hb
        rw [hq]
        exact hslotsFresh i a ha
      next => exact hk.slots i j a b ha hb hij
  · intro i a ha q hmem
    rw [h.retry] at hmem
    rw [hslots] at ha
    split at ha
    next =>
      cases ha
      rw [hq]
      exact htiersFresh q hmem
    next => exact hk.retained i a ha q hmem
  · rw [h.retry]
    exact hk.tiers

theorem PreparedMatches.reserves {state next : IngressState} {command : IngressCommand}
    {slotIndex : Nat} (hp : state.PreparedMatches) (h : state.Reserves next command slotIndex) :
    next.PreparedMatches := by
  obtain ⟨slot, -, -, hprepared, hslots⟩ := h.slot?
  intro j b p hb hbp
  rw [hslots] at hb
  split at hb
  next =>
    cases hb
    rw [hprepared] at hbp
    cases hbp
  next => exact hp j b p hb hbp

/-- A step that rewrites one occupied slot for the same qualification, or gives it up. -/
structure Rewrites (state next : IngressState) (slotIndex : Nat) (old : Slot)
    (new : Option Slot) : Prop where
  held : state.slot? slotIndex = some old
  written : next.slots = state.slots.set slotIndex new
  retry : next.retry = state.retry
  closed : next.closed = state.closed
  same : ∀ slot ∈ new, slot.qualification = old.qualification

theorem Rewrites.slot? {state next : IngressState} {slotIndex : Nat} {old : Slot}
    {new : Option Slot} (h : state.Rewrites next slotIndex old new) (j : Nat) :
    next.slot? j = if slotIndex = j then new else state.slot? j := by
  have hlt := lt_of_slot? h.held
  unfold IngressState.slot?
  rw [h.written, slot?_of_set]
  simp [hlt]

theorem Rewrites.frame {state next : IngressState} {slotIndex : Nat} {old : Slot}
    {new : Option Slot} (h : state.Rewrites next slotIndex old new) :
    Frame state next (· = slotIndex) := by
  refine ⟨?_, Or.inr ?_⟩
  · rintro ⟨-, hnone⟩
    have hheld := h.held
    rw [hnone slotIndex] at hheld
    cases hheld
  · intro j hj
    rw [h.slot?, if_neg (Ne.symm hj)]

theorem KeysDistinct.rewrites {state next : IngressState} {slotIndex : Nat} {old : Slot}
    {new : Option Slot} (hk : state.KeysDistinct) (h : state.Rewrites next slotIndex old new) :
    next.KeysDistinct := by
  refine KeysDistinct.shrink hk h.retry ?_
  intro i b hb
  rw [h.slot?] at hb
  split at hb
  next hi =>
    subst hi
    exact ⟨old, h.held, (h.same b hb).symm⟩
  next => exact ⟨b, hb, rfl⟩

theorem PreparedMatches.rewrites {state next : IngressState} {slotIndex : Nat} {old : Slot}
    {new : Option Slot} (hp : state.PreparedMatches) (h : state.Rewrites next slotIndex old new)
    (hnew : ∀ slot ∈ new, ∀ p, slot.prepared = some p →
      p.admission.retry = slot.qualification) : next.PreparedMatches := by
  intro j b p hb hbp
  rw [h.slot?] at hb
  split at hb
  next => exact hnew b hb p hbp
  next => exact hp j b p hb hbp

theorem PreparedMatches.stopped {state : IngressState} (h : state.Stopped) :
    state.PreparedMatches := by
  intro i slot p hslot
  rw [h.2 i] at hslot
  cases hslot

theorem PreparedMatches.of_slots {state next : IngressState} (hp : state.PreparedMatches)
    (hslots : next.slots = state.slots) : next.PreparedMatches := by
  intro i slot p hslot
  unfold IngressState.slot? at hslot
  rw [hslots] at hslot
  exact hp i slot p hslot

theorem KeysDistinct.of_slots {state next : IngressState} (hk : state.KeysDistinct)
    (hslots : next.slots = state.slots) (hretry : next.retry = state.retry) :
    next.KeysDistinct := by
  refine KeysDistinct.shrink hk hretry ?_
  intro i b hb
  unfold IngressState.slot? at hb
  rw [hslots] at hb
  exact ⟨b, hb, rfl⟩

theorem KeysDistinct.stopped {state next : IngressState} (hk : state.KeysDistinct)
    (hstopped : next.Stopped) (hretry : next.retry = state.retry) : next.KeysDistinct := by
  refine KeysDistinct.shrink hk hretry ?_
  intro i b hb
  rw [hstopped.2 i] at hb
  cases hb

/-- What the enqueue section does with the slot of a submission. -/
theorem enqueue_cases {state next : IngressState} {slotIndex terminal : Nat}
    {prepared : PreparedAdmissionV1} {command : IngressCommand} {result : SubmitResult}
    (h : state.enqueue slotIndex terminal prepared command = (result, next)) :
    next = state.stopAll ∨ ∃ slot, slot.phase = .preparing ∧
      state.Rewrites next slotIndex slot
        (some { slot with prepared := some prepared, phase := .queued }) := by
  unfold enqueue at h
  split at h
  next slot hslot =>
    split at h
    next hvalid =>
      cases h
      exact Or.inr ⟨slot, hvalid.1, hslot, rfl, rfl, rfl, by simp⟩
    next =>
      cases h
      exact Or.inl rfl
  next =>
    cases h
    exact Or.inl rfl

theorem rollbackPreparation_cases (state : IngressState) (slotIndex : Nat) :
    (state.slot? slotIndex = none ∧ state.rollbackPreparation slotIndex = state) ∨
      ∃ slot, state.Rewrites (state.rollbackPreparation slotIndex) slotIndex slot none := by
  unfold rollbackPreparation
  split
  next hnone => exact Or.inl ⟨hnone, rfl⟩
  next slot hslot => exact Or.inr ⟨slot, hslot, rfl, rfl, rfl, by simp⟩

/-- What the writer takes: the encoded command of a queued slot, or nothing. -/
theorem takeNext_cases {state next : IngressState} {work : NextWork}
    (h : state.takeNext = (work, next)) :
    (∃ slotIndex prepared slot, work = .work slotIndex prepared slot.priority slot.barrier ∧
      slot.phase = .queued ∧ slot.prepared = some prepared ∧
      state.Rewrites next slotIndex slot
        (some { slot with prepared := none, phase := .inFlight })) ∨
    (∀ slotIndex prepared priority barrier, work ≠ .work slotIndex prepared priority barrier) ∧
      next.slots = state.slots ∧ next.retry = state.retry ∧ next.closed = state.closed := by
  unfold takeNext at h
  split at h
  next slotIndex queue _ =>
    dsimp only at h
    split at h
    next =>
      cases h
      exact Or.inr ⟨by simp, rfl, rfl, rfl⟩
    next slot hslot =>
      split at h
      next =>
        cases h
        exact Or.inr ⟨by simp, rfl, rfl, rfl⟩
      next hphase =>
        split at h
        next =>
          cases h
          exact Or.inr ⟨by simp, rfl, rfl, rfl⟩
        next prepared hprepared =>
          cases h
          exact Or.inl ⟨slotIndex, prepared, slot, rfl, by simpa using hphase, hprepared, hslot,
            rfl, rfl, rfl, by simp⟩
  next queue _ =>
    dsimp only at h
    split at h
    next =>
      cases h
      refine Or.inr ⟨?_, rfl, rfl, rfl⟩
      intro slotIndex prepared priority barrier
      split <;> simp
    next =>
      split at h
      next =>
        cases h
        exact Or.inr ⟨by simp, rfl, rfl, rfl⟩
      next =>
        cases h
        exact Or.inr ⟨by simp, rfl, rfl, rfl⟩

theorem preparePublication_cases {state next : IngressState} {slotIndex : Nat}
    {admission : CanonicalAdmission} {preparation : Option PreparedPublication}
    (h : state.preparePublication slotIndex admission = (preparation, next)) :
    next.slots = state.slots ∧ next.retry = state.retry ∧ next.closed = state.closed := by
  unfold preparePublication at h
  split at h
  next slot _ =>
    split at h
    next =>
      split at h
      next plan _ =>
        cases h
        exact ⟨rfl, rfl, rfl⟩
      next =>
        cases h
        exact ⟨rfl, rfl, rfl⟩
    next =>
      cases h
      exact ⟨rfl, rfl, rfl⟩
  next =>
    cases h
    exact ⟨rfl, rfl, rfl⟩

/-- What completing the handled stage does: everything stops, or the slot starts to wait. -/
theorem completeHandled_cases {state next : IngressState} {slotIndex : Nat}
    {admission : CanonicalAdmission} {append : AppendIdentity} {preparation : PreparedPublication}
    {done : Bool}
    (h : state.completeHandled slotIndex admission append preparation = (done, next)) :
    (next.Stopped ∧ next.retry = state.retry) ∨ ∃ slot, slot.phase = .inFlight ∧
      state.Rewrites next slotIndex slot (some { slot with
        retainedAdmission := some admission
        append := some append
        phase := .awaitingDurability }) := by
  unfold completeHandled at h
  split at h
  next =>
    cases h
    exact Or.inl ⟨stopped_stopAll _, rfl⟩
  next slot hslot =>
    split at h
    next =>
      cases h
      exact Or.inl ⟨stopped_stopAll _, rfl⟩
    next hvalid =>
      dsimp only at h
      split at h
      next =>
        cases h
        simp only [not_or, not_not] at hvalid
        exact Or.inr ⟨slot, hvalid.1, hslot, rfl, rfl, rfl, by simp⟩
      next =>
        cases h
        exact Or.inl ⟨stopped_stopAll _, rfl⟩

/-- A batch gives up the slots of its entries, unless everything stops. -/
theorem finishBatch_cases {committed : ManifestCommit} {state next : IngressState}
    {entries : List DurableBatchEntry} {done : Bool}
    (h : finishBatch committed state entries = (done, next)) :
    next.retry = state.retry ∧ (next.Stopped ∨ next.closed = state.closed ∧
      ∀ j, next.slot? j = if j ∈ entries.map (·.slot) then none else state.slot? j) := by
  induction entries generalizing state with
  | nil =>
    cases h
    exact ⟨rfl, Or.inr ⟨rfl, by simp⟩⟩
  | cons entry rest ih =>
    simp only [finishBatch] at h
    split at h
    next =>
      cases h
      exact ⟨rfl, Or.inl (stopped_stopAll _)⟩
    next slot hslot =>
      split at h
      next =>
        obtain ⟨hretry, hrest⟩ := ih h
        refine ⟨hretry, hrest.imp_right ?_⟩
        rintro ⟨hclosed, hslots⟩
        refine ⟨hclosed, ?_⟩
        intro j
        have hset : (state.setSlot entry.slot none).slot? j =
            if entry.slot = j then none else state.slot? j := slot?_setSlot hslot
        rw [hslots j]
        simp only [List.map_cons, List.mem_cons]
        by_cases hj : j = entry.slot
        · subst hj
          simp only [true_or, ↓reduceIte]
          split
          next => rfl
          next => exact hset.trans (if_pos rfl)
        · simp only [hj, false_or]
          split
          next => rfl
          next => exact hset.trans (if_neg (Ne.symm hj))
      next =>
        cases h
        exact ⟨rfl, Or.inl (stopped_stopAll _)⟩

theorem batchEntryValid_ok {state : IngressState} {cutoff : DurableCutoff}
    {entry : DurableBatchEntry} (h : state.batchEntryValid cutoff entry = true) :
    ∃ slot, state.slot? entry.slot = some slot ∧ slot.phase = .awaitingDurability ∧
      slot.append = some entry.append ∧ slot.qualification = entry.qualification := by
  unfold batchEntryValid at h
  split at h
  next => cases h
  next slot hslot =>
    split at h
    next => cases h
    next append happend =>
      simp only [decide_eq_true_eq] at h
      obtain ⟨hphase, rfl, hq, -⟩ := h
      exact ⟨slot, hslot, hphase, happend, hq⟩

/-- A durable batch that passed its checks: the new projection retains old keys or keys of
the batch, and the batch's slots waited for exactly these appends. -/
structure Commits (state next : IngressState) (entries : List DurableBatchEntry) : Prop where
  waiting : ∀ entry ∈ entries, ∃ slot, state.slot? entry.slot = some slot ∧
    slot.phase = .awaitingDurability ∧ slot.qualification = entry.qualification
  retained : ∀ q ∈ next.retry.retained,
    q ∈ state.retry.retained ∨ ∃ entry ∈ entries, entry.qualification = q
  tiers : PairwiseDistinct next.retry.retained
  slots : next.Stopped ∨ next.closed = state.closed ∧
    ∀ j, next.slot? j = if j ∈ entries.map (·.slot) then none else state.slot? j
  nonempty : entries ≠ []

theorem completeDurableBatch_cases {state next : IngressState} {entries : List DurableBatchEntry}
    {committed : ManifestCommit} {retry : RetryStateSnapshot} {done : Bool}
    (h : state.completeDurableBatch entries committed retry = (done, next)) :
    (next.Stopped ∧ next.retry = state.retry) ∨ state.Commits next entries := by
  unfold completeDurableBatch at h
  split at h
  next =>
    cases h
    exact Or.inl ⟨stopped_stopAll _, rfl⟩
  next hheader =>
    split at h
    next =>
      cases h
      exact Or.inl ⟨stopped_stopAll _, rfl⟩
    next hverified =>
      split at h
      next =>
        cases h
        exact Or.inl ⟨stopped_stopAll _, rfl⟩
      next hvalid =>
        simp only [not_or] at hheader
        rw [not_not, RetryStateSnapshot.verifiesTransition_ok] at hverified
        rw [not_not, List.all_eq_true] at hvalid
        obtain ⟨reference, -, hadvance⟩ := hverified
        obtain ⟨hretry, hslots⟩ := finishBatch_cases h
        refine Or.inr ⟨?_, ?_, ?_, hslots, hheader.1⟩
        · intro entry hentry
          obtain ⟨slot, hslot, hphase, -, hq⟩ := batchEntryValid_ok (hvalid entry hentry)
          exact ⟨slot, hslot, hphase, hq⟩
        · intro q hq
          rw [hretry] at hq
          obtain hold | hnew := RetryStateSnapshot.retained_advance hadvance hq
          · exact Or.inl hold
          · rw [List.map_map, List.mem_map] at hnew
            exact Or.inr hnew
        · rw [hretry]
          obtain ⟨-, -, -, -, -, hstate, -⟩ := RetryStateSnapshot.advance_ok hadvance
          exact validateState_distinct hstate

theorem Commits.frame {state next : IngressState} {entries : List DurableBatchEntry}
    (h : state.Commits next entries) : Frame state next (· ∈ entries.map (·.slot)) := by
  refine ⟨?_, h.slots.imp_right ?_⟩
  · rintro ⟨-, hnone⟩
    obtain ⟨entry, hentry⟩ := List.exists_mem_of_ne_nil entries h.nonempty
    obtain ⟨slot, hslot, -⟩ := h.waiting entry hentry
    rw [hnone entry.slot] at hslot
    cases hslot
  · rintro ⟨-, hslots⟩ j hj
    rw [hslots, if_neg hj]

/-- The slots that remain after a batch, and that they were not part of it. -/
theorem Commits.remaining {state next : IngressState} {entries : List DurableBatchEntry}
    (h : state.Commits next entries) {j : Nat} {slot : Slot} (hj : next.slot? j = some slot) :
    j ∉ entries.map (·.slot) ∧ state.slot? j = some slot := by
  obtain hstopped | ⟨-, hslots⟩ := h.slots
  · rw [hstopped.2 j] at hj
    cases hj
  · rw [hslots] at hj
    split at hj
    next => cases hj
    next hnot => exact ⟨hnot, hj⟩

theorem KeysDistinct.commits {state next : IngressState} {entries : List DurableBatchEntry}
    (hk : state.KeysDistinct) (h : state.Commits next entries) : next.KeysDistinct := by
  constructor
  · intro i j a b ha hb hij
    exact hk.slots i j a b (h.remaining ha).2 (h.remaining hb).2 hij
  · intro i a ha q hq
    obtain ⟨hnot, ha⟩ := h.remaining ha
    obtain hold | ⟨entry, hentry, rfl⟩ := h.retained q hq
    · exact hk.retained i a ha q hold
    · obtain ⟨slot, hslot, -, hsame⟩ := h.waiting entry hentry
      rw [← hsame]
      apply hk.slots entry.slot i slot a hslot ha
      rintro rfl
      exact hnot (List.mem_map_of_mem hentry)
  · exact h.tiers

theorem PreparedMatches.commits {state next : IngressState} {entries : List DurableBatchEntry}
    (hp : state.PreparedMatches) (h : state.Commits next entries) : next.PreparedMatches := by
  intro i slot p hslot
  exact hp i slot p (h.remaining hslot).2

/-- Distinct keys, as the list of everything that is held. -/
theorem KeysDistinct.pairwise {state : IngressState} (h : state.KeysDistinct) :
    PairwiseDistinct (state.occupied.map (·.qualification) ++ state.retry.retained) := by
  unfold PairwiseDistinct
  rw [List.pairwise_append]
  refine ⟨?_, h.tiers, ?_⟩
  · rw [List.pairwise_map]
    unfold occupied
    rw [List.pairwise_filterMap, List.pairwise_iff_getElem]
    intro i j hi hj hij a ha b hb
    rw [RetryQualification.classify_distinct]
    apply h.slots i j a b _ _ (by omega)
    · unfold IngressState.slot?
      rw [List.getElem?_eq_getElem hi]
      exact ha
    · unfold IngressState.slot?
      rw [List.getElem?_eq_getElem hj]
      exact hb
  · intro a ha q hq
    rw [List.mem_map] at ha
    obtain ⟨slot, hslot, rfl⟩ := ha
    obtain ⟨i, hi⟩ := mem_occupied.mp hslot
    rw [RetryQualification.classify_distinct]
    exact Ne.symm (h.retained i slot hi q hq)

end IngressState

end Historian
