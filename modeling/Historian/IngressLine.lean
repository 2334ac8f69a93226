import Historian.IngressDrain

namespace Historian

open Checks IngressState

/-- An admission whose slot has become queued: its receipt and its qualification. -/
structure Enqueued where
  terminal : Nat
  qualification : RetryQualification
  deriving DecidableEq

/-- Where an admission stands between its enqueue and its batch. -/
inductive Place where
  | waiting (slotIndex : Nat) (append : AppendIdentity)
  | flying (slotIndex : Nat)
  | queued (slotIndex : Nat)

def Place.slotIndex : Place → Nat
  | .waiting slotIndex _ => slotIndex
  | .flying slotIndex => slotIndex
  | .queued slotIndex => slotIndex

def Place.Fits (slot : Slot) : Place → Prop
  | .waiting _ append => slot.phase = .awaitingDurability ∧ slot.append = some append
  | .flying _ => slot.phase = .inFlight
  | .queued _ => slot.phase = .queued

theorem Place.Fits.not_preparing {slot : Slot} {place : Place} (h : place.Fits slot) :
    slot.phase ≠ .preparing := by
  cases place with
  | waiting slotIndex append =>
    rw [h.1]
    simp
  | flying slotIndex =>
    have hphase : slot.phase = .inFlight := h
    simp [hphase]
  | queued slotIndex =>
    have hphase : slot.phase = .queued := h
    simp [hphase]

/-- What the receipt of the admission with number `k` reports: it is handled with its append when
`handled` is above `k`, and durable with it when `durable` is. -/
structure ReceiptState.Reports (receipt : ReceiptState) (append : Option AppendIdentity)
    (k durable handled : Nat) : Prop where
  handled : ∀ reported, receipt.handled = some (.writerHandled reported) ↔
    k < handled ∧ append = some reported
  durable : ∀ reported, (∃ committed, receipt.durable = some (.durable ⟨reported, committed⟩)) ↔
    k < durable ∧ append = some reported

theorem ReceiptState.Reports.resolveStopped {receipt : ReceiptState}
    {append : Option AppendIdentity} {k durable handled : Nat}
    (h : receipt.Reports append k durable handled) :
    receipt.resolveStopped.Reports append k durable handled := by
  refine ⟨?_, ?_⟩
  · intro reported
    rw [← h.handled]
    cases hstage : receipt.handled with
    | none => simp [ReceiptState.resolveStopped, hstage]
    | some outcome => simp [ReceiptState.resolveStopped, hstage]
  · intro reported
    rw [← h.durable]
    cases hstage : receipt.durable with
    | none => simp [ReceiptState.resolveStopped, hstage]
    | some outcome => simp [ReceiptState.resolveStopped, hstage]

namespace IngressState

variable {state next : IngressState} {queued : List Enqueued} {done : List AppendIdentity}
  {places : List Place}

/-- The receipts of the admissions in the order of their enqueue: a prefix of them is handled, a
prefix of these is durable, each with the append of its number. -/
def Reported (state : IngressState) (queued : List Enqueued) (appends : List AppendIdentity)
    (durable handled : Nat) : Prop :=
  ∀ (k : Nat) (entry : Enqueued), queued[k]? = some entry →
    ∃ receipt, state.receipts[entry.terminal]? = some receipt ∧
      receipt.Reports appends[k]? k durable handled

/-- The admission in this place. -/
def Stands (state : IngressState) (place : Place) (entry : Enqueued) : Prop :=
  ∃ slot, state.slot? place.slotIndex = some slot ∧ slot.terminal = entry.terminal ∧
    slot.qualification = entry.qualification ∧ place.Fits slot

/-- The admissions in the order in which their slots became queued: the durable ones with their
appends, and behind them one place for each of the others. -/
structure Line (state : IngressState) (queued : List Enqueued) (done : List AppendIdentity)
    (places : List Place) : Prop where
  fresh : ∀ i slot, state.slot? i = some slot → slot.phase = .preparing →
    ∀ entry ∈ queued, entry.terminal ≠ slot.terminal
  known : ∀ entry ∈ queued, entry.terminal < state.receipts.length
  distinct : (queued.map (·.terminal)).Nodup
  length : queued.length = done.length + places.length
  settled : ∀ (k : Nat) (append : AppendIdentity), done[k]? = some append →
    ∃ entry committed, queued[k]? = some entry ∧ state.receipts[entry.terminal]? =
      some ⟨some (.writerHandled append), some (.durable ⟨append, committed⟩)⟩
  stands : ∀ (k : Nat) (place : Place), places[k]? = some place → ∃ entry,
    queued[done.length + k]? = some entry ∧ state.Stands place entry

theorem later_resolved {old new : ReceiptState} (h : old.Resolved) (hlater : old.Later new) :
    new = old := by
  obtain ⟨handled, hhandled⟩ := Option.ne_none_iff_exists'.mp h.1
  obtain ⟨durable, hdurable⟩ := Option.ne_none_iff_exists'.mp h.2
  cases old
  cases new
  have hfirst := hlater.handled _ hhandled
  have hsecond := hlater.durable _ hdurable
  simp only at hhandled hdurable hfirst hsecond
  rw [hfirst, hsecond, hhandled, hdurable]

/-- Two admissions of the line have different receipts. -/
theorem Line.index (h : state.Line queued done places) {j k : Nat} {a b : Enqueued}
    (hj : queued[j]? = some a) (hk : queued[k]? = some b) (hsame : a.terminal = b.terminal) :
    j = k := by
  have hlt := (List.getElem?_eq_some_iff.mp hj).1
  refine (List.getElem?_inj (by rwa [List.length_map]) h.distinct).mp ?_
  rw [List.getElem?_map, List.getElem?_map, hj, hk]
  simp [hsame]

/-- Two places have different slots. -/
theorem Line.slots (h : state.Line queued done places) {j k : Nat} {a b : Place}
    (hj : places[j]? = some a) (hk : places[k]? = some b) (hsame : a.slotIndex = b.slotIndex) :
    j = k := by
  obtain ⟨entry, hentry, slot, hslot, hterminal, -⟩ := h.stands j a hj
  obtain ⟨other, hother, found, hfound, hterminal', -⟩ := h.stands k b hk
  rw [hsame, hfound] at hslot
  cases hslot
  have hindex := h.index hentry hother (hterminal.symm.trans hterminal')
  omega

/-- The receipts of what is already durable stay as they are. -/
theorem Line.settled_extends (h : state.Line queued done places)
    (grows : Extends state.receipts next.receipts) (k : Nat) (append : AppendIdentity)
    (hk : done[k]? = some append) : ∃ entry committed, queued[k]? = some entry ∧
      next.receipts[entry.terminal]? =
        some ⟨some (.writerHandled append), some (.durable ⟨append, committed⟩)⟩ := by
  obtain ⟨entry, committed, hentry, hreceipt⟩ := h.settled k append hk
  obtain ⟨later, hlater, hkeeps⟩ := grows _ _ hreceipt
  have hsame := later_resolved ⟨by simp, by simp⟩ hkeeps
  rw [hsame] at hlater
  exact ⟨entry, committed, hentry, hlater⟩

/-- A section that leaves the slots of the line alone. -/
theorem Line.keep (h : state.Line queued done places)
    (grows : Extends state.receipts next.receipts)
    (same : ∀ place ∈ places, next.slot? place.slotIndex = state.slot? place.slotIndex)
    (fresh : ∀ i slot, next.slot? i = some slot → slot.phase = .preparing →
      ∀ entry ∈ queued, entry.terminal ≠ slot.terminal) : next.Line queued done places where
  fresh := fresh
  known := fun entry hentry => Nat.lt_of_lt_of_le (h.known entry hentry) grows.length_le
  distinct := h.distinct
  length := h.length
  settled := h.settled_extends grows
  stands := by
    intro k place hk
    obtain ⟨entry, hentry, slot, hslot, hrest⟩ := h.stands k place hk
    refine ⟨entry, hentry, slot, ?_, hrest⟩
    rw [same place (List.mem_of_getElem? hk)]
    exact hslot

/-- A section that leaves every slot alone. -/
theorem Line.unchanged (h : state.Line queued done places) (slots : next.slots = state.slots)
    (grows : Extends state.receipts next.receipts) : next.Line queued done places := by
  have hslot : ∀ i, next.slot? i = state.slot? i := by
    intro i
    unfold slot?
    rw [slots]
  refine h.keep grows (fun place _ => hslot place.slotIndex) ?_
  intro i slot hi
  rw [hslot] at hi
  exact h.fresh i slot hi

/-- One admission moves on to the next kind of place. -/
theorem Line.turn {before after : List Place} {place place' : Place}
    (h : state.Line queued done (before ++ place :: after)) {old new : Slot}
    (held : state.slot? place.slotIndex = some old)
    (slots : ∀ j, next.slot? j = if place.slotIndex = j then some new else state.slot? j)
    (grows : Extends state.receipts next.receipts) (same : place'.slotIndex = place.slotIndex)
    (terminal : new.terminal = old.terminal) (qualification : new.qualification = old.qualification)
    (fits : place'.Fits new) : next.Line queued done (before ++ place' :: after) where
  fresh := by
    intro i slot hi hphase
    rw [slots] at hi
    split at hi
    next =>
      cases hi
      exact absurd hphase fits.not_preparing
    next => exact h.fresh i slot hi hphase
  known := fun entry hentry => Nat.lt_of_lt_of_le (h.known entry hentry) grows.length_le
  distinct := h.distinct
  length := by
    rw [h.length, List.length_append, List.length_append, List.length_cons, List.length_cons]
  settled := h.settled_extends grows
  stands := by
    have hown : (before ++ place :: after)[before.length]? = some place := by simp
    intro k other hk
    by_cases hsame : k = before.length
    · subst hsame
      have hother : place' = other := by simpa using hk
      subst hother
      obtain ⟨entry, hentry, slot, hslot, hterminal, hqualification, -⟩ := h.stands _ _ hown
      rw [held] at hslot
      cases hslot
      refine ⟨entry, hentry, new, ?_, terminal.trans hterminal,
        qualification.trans hqualification, fits⟩
      rw [slots, same, if_pos rfl]
    · have hkept : (before ++ place :: after)[k]? = some other := by
        rw [List.getElem?_append] at hk ⊢
        split at hk
        next hlt =>
          rw [if_pos hlt]
          exact hk
        next hle =>
          rw [if_neg hle]
          obtain ⟨j, hj⟩ : ∃ j, k - before.length = j + 1 := ⟨k - before.length - 1, by omega⟩
          rw [hj, List.getElem?_cons_succ] at hk ⊢
          exact hk
      obtain ⟨entry, hentry, slot, hslot, hrest⟩ := h.stands k other hkept
      refine ⟨entry, hentry, slot, ?_, hrest⟩
      rw [slots, if_neg]
      · exact hslot
      · intro hslots
        exact hsame (h.slots hkept hown hslots.symm)

/-- A prepared submission joins the end of the line. -/
theorem Line.join (h : state.Line queued done places) {slotIndex : Nat} {old new : Slot}
    (held : state.slot? slotIndex = some old) (preparing : old.phase = .preparing)
    (slots : ∀ j, next.slot? j = if slotIndex = j then some new else state.slot? j)
    (terminals : ∀ i slot, i ≠ slotIndex → state.slot? i = some slot →
      slot.terminal ≠ old.terminal)
    (below : old.terminal < state.receipts.length) (receipts : next.receipts = state.receipts)
    (terminal : new.terminal = old.terminal) (qualification : new.qualification = old.qualification)
    (phase : new.phase = .queued) :
    next.Line (queued ++ [⟨old.terminal, old.qualification⟩]) done
      (places ++ [.queued slotIndex]) where
  fresh := by
    intro i slot hi hphase entry hentry
    rw [slots] at hi
    split at hi
    next =>
      cases hi
      rw [phase] at hphase
      cases hphase
    next hne =>
      rcases List.mem_append.mp hentry with hold | hnew
      · exact h.fresh i slot hi hphase entry hold
      · rw [List.mem_singleton] at hnew
        rw [hnew]
        exact (terminals i slot (Ne.symm hne) hi).symm
  known := by
    intro entry hentry
    rw [receipts]
    rcases List.mem_append.mp hentry with hold | hnew
    · exact h.known entry hold
    · rw [List.mem_singleton] at hnew
      rw [hnew]
      exact below
  distinct := by
    rw [List.map_append, List.map_singleton, List.nodup_append]
    refine ⟨h.distinct, List.pairwise_singleton _ _, ?_⟩
    intro a ha b hb hsame
    rw [List.mem_singleton] at hb
    obtain ⟨entry, hentry, hterminal⟩ := List.mem_map.mp ha
    exact h.fresh slotIndex old held preparing entry hentry (hterminal.trans (hsame.trans hb))
  length := by
    rw [List.length_append, List.length_append, h.length, List.length_singleton,
      List.length_singleton]
    omega
  settled := by
    intro k append hk
    obtain ⟨entry, committed, hentry, hreceipt⟩ := h.settled k append hk
    rw [receipts]
    have hlt := (List.getElem?_eq_some_iff.mp hentry).1
    exact ⟨entry, committed, (List.getElem?_append_left hlt).trans hentry, hreceipt⟩
  stands := by
    intro k place hk
    rw [List.getElem?_append] at hk
    split at hk
    next hlt =>
      obtain ⟨entry, hentry, slot, hslot, hterminal, hqualification, hfits⟩ := h.stands k place hk
      have hbound := (List.getElem?_eq_some_iff.mp hentry).1
      refine ⟨entry, (List.getElem?_append_left hbound).trans hentry, slot, ?_, hterminal,
        hqualification, hfits⟩
      rw [slots, if_neg]
      · exact hslot
      · intro hsame
        rw [← hsame, held] at hslot
        cases hslot
        exact hfits.not_preparing preparing
    next hle =>
      have hlast := (List.getElem?_eq_some_iff.mp hk).1
      rw [List.length_singleton] at hlast
      have hindex : k = places.length := by omega
      subst hindex
      have hplace : Place.queued slotIndex = place := by simpa using hk
      subst hplace
      refine ⟨⟨old.terminal, old.qualification⟩, ?_, new, ?_, terminal, qualification, phase⟩
      · rw [← h.length]
        simp
      · rw [slots]
        exact if_pos rfl

/-- The first admission that waits becomes durable with its append. -/
theorem Line.settle {slotIndex : Nat} {append : AppendIdentity}
    (h : state.Line queued done (.waiting slotIndex append :: places)) {old : Slot}
    (held : state.slot? slotIndex = some old) {committed : ManifestCommit}
    (slots : ∀ j, next.slot? j = if slotIndex = j then none else state.slot? j)
    (grows : Extends state.receipts next.receipts)
    (receipt : next.receipts[old.terminal]? =
      some ⟨some (.writerHandled append), some (.durable ⟨append, committed⟩)⟩) :
    next.Line queued (done ++ [append]) places where
  fresh := by
    intro i slot hi hphase
    rw [slots] at hi
    split at hi
    next => cases hi
    next => exact h.fresh i slot hi hphase
  known := fun entry hentry => Nat.lt_of_lt_of_le (h.known entry hentry) grows.length_le
  distinct := h.distinct
  length := by
    rw [h.length, List.length_append, List.length_cons, List.length_singleton]
    omega
  settled := by
    intro k reported hk
    rw [List.getElem?_append] at hk
    split at hk
    next => exact h.settled_extends grows k reported hk
    next hle =>
      have hlast := (List.getElem?_eq_some_iff.mp hk).1
      rw [List.length_singleton] at hlast
      have hindex : k = done.length := by omega
      subst hindex
      have hreported : append = reported := by simpa using hk
      subst hreported
      obtain ⟨entry, hentry, slot, hslot, hterminal, -⟩ := h.stands 0 _ rfl
      rw [show (Place.waiting slotIndex append).slotIndex = slotIndex from rfl, held] at hslot
      cases hslot
      rw [hterminal] at receipt
      exact ⟨entry, committed, hentry, receipt⟩
  stands := by
    intro k place hk
    obtain ⟨entry, hentry, slot, hslot, hrest⟩ := h.stands (k + 1) place hk
    refine ⟨entry, ?_, slot, ?_, hrest⟩
    · rw [List.length_append, List.length_singleton]
      rw [← hentry]
      congr 1
      omega
    · rw [slots, if_neg]
      · exact hslot
      · intro hsame
        have hindex := @Line.slots _ _ _ _ h 0 (k + 1) _ place rfl hk hsame
        omega

section Sections

theorem Line.reserve (h : state.Line queued done places) (command : IngressCommand)
    (measured : Except JournalV1Error Nat) :
    (state.reserve command measured).2.Line queued done places := by
  obtain ⟨_, -, hsame | ⟨outcome, -, hreplayed⟩⟩ | ⟨slotIndex, frameLen, -, -, htakes, hfresh⟩ :=
    @reserve_next state (state.reserve command measured).2 command measured _ rfl
  · rw [hsame]
    exact h
  · rw [hreplayed]
    exact h.unchanged rfl (Extends.append _ _)
  · rw [hfresh]
    have hslots : ∀ j, ({ state.setSlot slotIndex (some (state.freshSlot command frameLen)) with
        reservedBytes := state.reservedBytes + frameLen
        receipts := state.receipts ++ [.pending] } : IngressState).slot? j =
          if slotIndex = j then some (state.freshSlot command frameLen) else state.slot? j := by
      intro j
      unfold slot? setSlot
      rw [slot?_of_set]
      simp [htakes.inRange]
    refine h.keep (Extends.append _ _) ?_ ?_
    · intro place hplace
      rw [hslots, if_neg]
      intro hsame
      obtain ⟨k, hk⟩ := List.mem_iff_getElem?.mp hplace
      obtain ⟨_, -, slot, hslot, -⟩ := h.stands k place hk
      rw [← hsame, htakes.wasFree] at hslot
      cases hslot
    · intro i slot hi hphase entry hentry
      rw [hslots] at hi
      split at hi
      next =>
        cases hi
        have hknown := h.known entry hentry
        change entry.terminal ≠ state.receipts.length
        omega
      next => exact h.fresh i slot hi hphase entry hentry

theorem Line.rollbackPreparation (h : state.Line queued done places) {slotIndex : Nat}
    (preparing : ∀ slot, state.slot? slotIndex = some slot → slot.phase = .preparing) :
    (state.rollbackPreparation slotIndex).Line queued done places := by
  unfold IngressState.rollbackPreparation
  split
  next => exact h
  next old hold =>
    have hslots : ∀ j, ({ state.setSlot slotIndex none with
        reservedBytes := state.reservedBytes - old.reservation
        receipts := state.receipts.modify old.terminal (·.resolveStopped) } :
          IngressState).slot? j = if slotIndex = j then none else state.slot? j :=
      fun j => slot?_setSlot hold
    have hgrows : Extends state.receipts (state.receipts.modify old.terminal (·.resolveStopped)) :=
      (@Receipts.stop (fun _ => True) state.receipts old.terminal).extends
    refine h.keep hgrows ?_ ?_
    · intro place hplace
      rw [hslots, if_neg]
      intro hsame
      obtain ⟨k, hk⟩ := List.mem_iff_getElem?.mp hplace
      obtain ⟨_, -, slot, hslot, -, -, hfits⟩ := h.stands k place hk
      rw [← hsame] at hslot
      exact hfits.not_preparing (preparing slot hslot)
    · intro i slot hi hphase
      rw [hslots] at hi
      split at hi
      next => cases hi
      next => exact h.fresh i slot hi hphase

/-- A submission that still has its slot joins the line. -/
theorem Line.enqueue (h : state.Line queued done places) (hbalanced : state.Balanced)
    {slotIndex terminal : Nat} {prepared : PreparedAdmissionV1} {command : IngressCommand}
    {old : Slot} (held : state.slot? slotIndex = some old) (preparing : old.phase = .preparing) :
    ∃ next, state.enqueue slotIndex terminal prepared command =
        (.ok ⟨.queued, terminal⟩, next) ∧
      next.Line (queued ++ [⟨old.terminal, old.qualification⟩]) done
        (places ++ [.queued slotIndex]) ∧
      next.queue = state.queue.push slotIndex ∧ next.latest = state.latest := by
  have hpush := hbalanced.canPush held (by simp [preparing])
  refine ⟨{ state.setSlot slotIndex
      (some { old with prepared := some prepared, phase := .queued })
    with queue := state.queue.push slotIndex }, ?_, ?_, rfl, rfl⟩
  · unfold IngressState.enqueue
    rw [held]
    dsimp only
    rw [if_pos ⟨preparing, hpush⟩]
  · refine h.join held preparing (fun j => slot?_setSlot held) ?_ ?_ rfl rfl rfl rfl
    · intro i slot hne hi hsame
      exact hne (hbalanced.terminals i slotIndex slot old hi held hsame)
    · exact (List.getElem?_eq_some_iff.mp (hbalanced.sound slotIndex old held).receipt).1

/-- The writer finds nothing in an empty ring. -/
theorem takeNext_nil (hlists : state.queue.Lists []) :
    (∀ slotIndex prepared priority barrier,
      state.takeNext.1 ≠ .work slotIndex prepared priority barrier) ∧
    state.takeNext.2.slots = state.slots ∧ state.takeNext.2.queue.Lists [] ∧
    (state.latest.current ≠ none → state.takeNext.2.latest.current ≠ none) := by
  unfold IngressState.takeNext
  rw [hlists.pop_nil]
  dsimp only
  split
  next =>
    have hseal : state.latest.seal.2.current = state.latest.current := by
      unfold LatestState.seal
      split
      next => rfl
      next => rfl
    refine ⟨?_, rfl, hlists, ?_⟩
    · intro slotIndex prepared priority barrier
      dsimp only
      split
      next => exact fun h => nomatch h
      next => exact fun h => nomatch h
    · dsimp only
      rw [hseal]
      exact id
  next =>
    split
    next => exact ⟨by simp, rfl, hlists, id⟩
    next => exact ⟨by simp, rfl, hlists, id⟩

/-- The writer takes the first queued admission of the line. -/
theorem Line.takeNext {waiting : List Place} {slotIndex : Nat} {items : List Nat}
    (h : state.Line queued done (waiting ++ .queued slotIndex :: items.map .queued))
    (hbalanced : state.Balanced) (hlists : state.queue.Lists (slotIndex :: items)) :
    ∃ prepared priority barrier, state.takeNext.1 = .work slotIndex prepared priority barrier ∧
      state.takeNext.2.Line queued done (waiting ++ .flying slotIndex :: items.map .queued) ∧
      state.takeNext.2.queue.Lists items ∧ state.takeNext.2.latest = state.latest := by
  obtain ⟨_, -, slot, hslot, -, -, hphase⟩ := h.stands waiting.length (.queued slotIndex) (by simp)
  obtain ⟨rest, hpop, hrest⟩ := hlists.pop_cons
  obtain ⟨prepared, hprepared, -⟩ := (hbalanced.sound slotIndex slot hslot).queued hphase
  have hsame : ({ state with queue := rest } : IngressState).slot? slotIndex = some slot := hslot
  have hphase : slot.phase = .queued := hphase
  have htake : state.takeNext = (.work slotIndex prepared slot.priority slot.barrier,
      ({ state with queue := rest } : IngressState).setSlot slotIndex
        (some { slot with prepared := none, phase := .inFlight })) := by
    unfold IngressState.takeNext
    rw [hpop]
    dsimp only
    rw [hsame]
    simp only [hphase, hprepared, ne_eq, not_true_eq_false, ↓reduceIte]
  rw [htake]
  refine ⟨prepared, slot.priority, slot.barrier, rfl, ?_, hrest, rfl⟩
  have hslots : ∀ j, (({ state with queue := rest } : IngressState).setSlot slotIndex
      (some { slot with prepared := none, phase := .inFlight })).slot? j =
        if slotIndex = j then some { slot with prepared := none, phase := .inFlight }
        else state.slot? j := fun j => slot?_setSlot hslot
  exact @Line.turn _ _ _ _ _ _ _ (.flying slotIndex) h slot _ hslot hslots (Extends.refl _) rfl rfl
    rfl rfl

/-- The command in flight is handled: it waits for its batch with its append. -/
theorem Line.completeHandled {waiting after : List Place} {slotIndex : Nat}
    (h : state.Line queued done (waiting ++ .flying slotIndex :: after))
    (hbalanced : state.Balanced) {admission : CanonicalAdmission} {append : AppendIdentity}
    {preparation : PreparedPublication}
    (hdone : (state.completeHandled slotIndex admission append preparation).1 = true) :
    (state.completeHandled slotIndex admission append preparation).2.Line queued done
        (waiting ++ .waiting slotIndex append :: after) ∧
      (state.completeHandled slotIndex admission append preparation).2.queue = state.queue ∧
      (state.latest.current ≠ none →
        (state.completeHandled slotIndex admission append preparation).2.latest.current ≠
          none) := by
  have hgrows := (@receipts_completeHandled (fun _ => True) state hbalanced slotIndex admission
    append preparation).extends
  obtain ⟨slot, hslot, hnext⟩ : ∃ slot, state.slot? slotIndex = some slot ∧
      (state.completeHandled slotIndex admission append preparation).2 =
        ({ state.setSlot slotIndex (some { slot with
            retainedAdmission := some admission
            append := some append
            phase := .awaitingDurability }) with
          latest := state.latest.commit preparation } : IngressState).setReceipt slot.terminal
          ((state.receipt slot.terminal).resolveHandled append).2 := by
    unfold IngressState.completeHandled at hdone ⊢
    split at hdone
    next => cases hdone
    next slot hslot =>
      split at hdone
      next => cases hdone
      next hvalid =>
        dsimp only at hdone
        split at hdone
        next hresolved =>
          refine ⟨slot, hslot, ?_⟩
          rw [if_neg hvalid]
          dsimp only
          rw [if_pos hresolved]
        next => cases hdone
  rw [hnext] at hgrows ⊢
  refine ⟨?_, rfl, ?_⟩
  · refine @Line.turn _ _ _ _ _ _ _ (.waiting slotIndex append) h slot { slot with
        retainedAdmission := some admission
        append := some append
        phase := .awaitingDurability } hslot ?_ hgrows rfl rfl rfl ⟨rfl, rfl⟩
    exact fun j => slot?_setSlot hslot
  · intro hcurrent
    change (state.latest.commit preparation).current ≠ none
    unfold LatestState.commit
    split
    next => exact hcurrent
    next => simp

/-- The entries of a batch are at the front of the line, and they become durable in their order. -/
theorem Line.finishBatch {committed : ManifestCommit} {entries : List DurableBatchEntry}
    (h : state.Line queued done
      (entries.map (fun entry => .waiting entry.slot entry.append) ++ places))
    (hbalanced : state.Balanced) (hdistinct : (entries.map (·.slot)).Nodup)
    (hwaits : ∀ entry ∈ entries, ∃ slot, state.slot? entry.slot = some slot ∧
      EntryWaits committed entry slot) :
    (IngressState.finishBatch committed state entries).2.Line queued
        (done ++ entries.map (·.append)) places ∧
      (IngressState.finishBatch committed state entries).2.queue = state.queue ∧
      (IngressState.finishBatch committed state entries).2.latest = state.latest := by
  induction entries generalizing state done with
  | nil =>
    rw [List.map_nil, List.append_nil]
    exact ⟨h, rfl, rfl⟩
  | cons entry rest ih =>
    obtain ⟨slot, hslot, hwait⟩ := hwaits entry List.mem_cons_self
    obtain ⟨hfirst, hdistinct⟩ := List.nodup_cons.mp hdistinct
    have hbefore := hbalanced.sound entry.slot slot hslot
    have hknown := (List.getElem?_eq_some_iff.mp hbefore.receipt).1
    have hreceipt := hbalanced.receipt hslot
    have hgrows := (@receipts_finishEntry (fun _ => True) state committed entry slot hbalanced hslot
      hwait trivial).extends
    have hsettled : (state.finishEntry committed entry slot).Line queued (done ++ [entry.append])
        (rest.map (fun entry => .waiting entry.slot entry.append) ++ places) := by
      refine @Line.settle _ _ _ _ _ _ _ h _ hslot committed (fun j => slot?_setSlot hslot) hgrows ?_
      refine (List.getElem?_set_self hknown).trans ?_
      rw [hreceipt, hwait.append]
      rfl
    obtain ⟨hline, hqueue, hlatest⟩ := ih hsettled (finishEntry_balanced hbalanced hslot hwait)
      hdistinct (by
        intro other hother
        rw [finishEntry_slot? hslot]
        · exact hwaits other (List.mem_cons_of_mem _ hother)
        · intro hsame
          exact hfirst (List.mem_map.mpr ⟨other, hother, hsame⟩))
    rw [finishBatch_cons hbalanced hslot hwait]
    refine ⟨?_, hqueue, hlatest⟩
    rw [List.map_cons, List.append_cons]
    exact hline

/-- A batch that is accepted takes the front of the line, in one commit. -/
theorem Line.completeDurableBatch {entries : List DurableBatchEntry} {committed : ManifestCommit}
    {retry : RetryStateSnapshot}
    (h : state.Line queued done
      (entries.map (fun entry => .waiting entry.slot entry.append) ++ places))
    (hbalanced : state.Balanced)
    (hdone : (state.completeDurableBatch entries committed retry).1 = true) :
    (state.completeDurableBatch entries committed retry).2.Line queued
        (done ++ entries.map (·.append)) places ∧
      (state.completeDurableBatch entries committed retry).2.queue = state.queue ∧
      (state.completeDurableBatch entries committed retry).2.latest = state.latest := by
  obtain hstopped | ⟨heq, -, hdistinct, hwaits⟩ :=
    @completeDurableBatch_checked state entries committed retry
  · rw [hstopped] at hdone
    cases hdone
  · have hsame : ({ state with retry := retry } : IngressState).Balanced :=
      hbalanced.unchanged rfl rfl rfl rfl ⟨[], by simp⟩
    have hline : ({ state with retry := retry } : IngressState).Line queued done
        (entries.map (fun entry => .waiting entry.slot entry.append) ++ places) :=
      h.unchanged rfl (Extends.refl _)
    rw [heq]
    exact hline.finishBatch hsame hdistinct hwaits

end Sections

section Reports

/-- A receipt that reports nothing of the kind yet. -/
theorem reports_pending {append : Option AppendIdentity} {k durable handled : Nat}
    (hdurable : durable ≤ k) (hhandled : handled ≤ k) :
    (⟨none, none⟩ : ReceiptState).Reports append k durable handled := by
  refine ⟨?_, ?_⟩
  · intro reported
    simp only [reduceCtorEq, false_iff]
    omega
  · intro reported
    have hno : ¬k < durable := by omega
    simp [hno]

theorem reports_handled {append : AppendIdentity} {k durable handled : Nat}
    (hdurable : durable ≤ k) (hhandled : k < handled) :
    (⟨some (.writerHandled append), none⟩ : ReceiptState).Reports (some append) k durable
      handled := by
  refine ⟨?_, ?_⟩
  · intro reported
    simp [hhandled]
  · intro reported
    have hno : ¬k < durable := by omega
    simp [hno]

theorem reports_durable {append : AppendIdentity} {committed : ManifestCommit}
    {k durable handled : Nat} (hdurable : k < durable) (hhandled : k < handled) :
    (⟨some (.writerHandled append), some (.durable ⟨append, committed⟩)⟩ : ReceiptState).Reports
      (some append) k durable handled := by
  refine ⟨?_, ?_⟩
  · intro reported
    simp [hhandled]
  · intro reported
    simp [hdurable]

/-- What the receipts report, for the admissions of a line. -/
theorem Line.reported {waiting : List (Nat × AppendIdentity)} {appends : List AppendIdentity}
    (h : state.Line queued done (waiting.map (fun entry => .waiting entry.1 entry.2) ++ places))
    (hbalanced : state.Balanced)
    (hplaces : ∀ place ∈ places, ∀ slotIndex append, place ≠ .waiting slotIndex append)
    (happends : done ++ waiting.map Prod.snd <+: appends) :
    state.Reported queued appends done.length (done.length + waiting.length) := by
  obtain ⟨more, rfl⟩ := happends
  intro k entry hentry
  have hlt := (List.getElem?_eq_some_iff.mp hentry).1
  have hlength := h.length
  rw [List.length_append, List.length_map] at hlength
  by_cases hdurable : k < done.length
  · obtain ⟨append, happend⟩ : ∃ append, done[k]? = some append :=
      ⟨_, List.getElem?_eq_getElem hdurable⟩
    obtain ⟨found, committed, hfound, hreceipt⟩ := h.settled k append happend
    rw [hentry] at hfound
    cases hfound
    refine ⟨_, hreceipt, ?_⟩
    rw [List.append_assoc, List.getElem?_append_left hdurable, happend]
    exact reports_durable hdurable (by omega)
  · obtain ⟨j, rfl⟩ : ∃ j, k = done.length + j := ⟨k - done.length, by omega⟩
    by_cases hwaiting : j < waiting.length
    · obtain ⟨own, hown⟩ : ∃ own, waiting[j]? = some own := ⟨_, List.getElem?_eq_getElem hwaiting⟩
      obtain ⟨found, hfound, slot, hslot, hterminal, -, -, happend⟩ :=
        h.stands j (.waiting own.1 own.2) (by
          rw [List.getElem?_append_left (by rwa [List.length_map]), List.getElem?_map, hown]
          rfl)
      rw [hentry] at hfound
      cases hfound
      have hreceipt := (hbalanced.sound _ slot hslot).receipt
      rw [hterminal, happend] at hreceipt
      refine ⟨_, hreceipt, ?_⟩
      have hindex : (done ++ waiting.map Prod.snd ++ more)[done.length + j]? = some own.2 := by
        rw [List.append_assoc, List.getElem?_append_right (by omega), Nat.add_sub_cancel_left,
          List.getElem?_append_left (by rwa [List.length_map]), List.getElem?_map, hown]
        rfl
      rw [hindex]
      exact reports_handled (by omega) (by omega)
    · obtain ⟨i, rfl⟩ : ∃ i, j = waiting.length + i := ⟨j - waiting.length, by omega⟩
      obtain ⟨place, hplace⟩ : ∃ place, places[i]? = some place :=
        ⟨_, List.getElem?_eq_getElem (by omega)⟩
      obtain ⟨found, hfound, slot, hslot, hterminal, -, hfits⟩ :=
        h.stands (waiting.length + i) place (by
          rw [List.getElem?_append_right (by rw [List.length_map]; omega), List.length_map,
            Nat.add_sub_cancel_left, hplace])
      rw [hentry] at hfound
      cases hfound
      have hsound := hbalanced.sound _ slot hslot
      have hnone : slot.append = none := by
        apply hsound.no_append
        cases place with
        | waiting slotIndex append =>
          exact absurd rfl (hplaces _ (List.mem_of_getElem? hplace) slotIndex append)
        | flying slotIndex =>
          have hphase : slot.phase = .inFlight := hfits
          simp [hphase]
        | queued slotIndex =>
          have hphase : slot.phase = .queued := hfits
          simp [hphase]
      have hreceipt := hsound.receipt
      rw [hterminal, hnone] at hreceipt
      exact ⟨_, hreceipt, reports_pending (by omega) (by omega)⟩

/-- Every admission is reported, and no report changes any more. -/
structure Ended (state : IngressState) (queued : List Enqueued) (appends : List AppendIdentity)
    (durable handled : Nat) : Prop where
  stopped : state.Stopped
  reported : state.Reported queued appends durable handled
  resolved : ∀ entry ∈ queued, ∀ receipt, state.receipts[entry.terminal]? = some receipt →
    receipt.Resolved

theorem Ended.later (h : state.Ended queued done durable handled)
    (stopped : next.Stopped) (grows : Extends state.receipts next.receipts) :
    next.Ended queued done durable handled := by
  have hsame : ∀ entry ∈ queued, ∀ receipt, state.receipts[entry.terminal]? = some receipt →
      next.receipts[entry.terminal]? = some receipt := by
    intro entry hentry receipt hreceipt
    obtain ⟨later, hlater, hkeeps⟩ := grows _ _ hreceipt
    rw [later_resolved (h.resolved entry hentry receipt hreceipt) hkeeps] at hlater
    exact hlater
  refine ⟨stopped, ?_, ?_⟩
  · intro k entry hentry
    obtain ⟨receipt, hreceipt, hreports⟩ := h.reported k entry hentry
    exact ⟨receipt, hsame entry (List.mem_of_getElem? hentry) receipt hreceipt, hreports⟩
  · intro entry hentry receipt hreceipt
    obtain ⟨k, hk⟩ := List.mem_iff_getElem?.mp hentry
    obtain ⟨before, hbefore, -⟩ := h.reported k entry hk
    have hfound := hsame entry hentry before hbefore
    rw [hreceipt, Option.some.injEq] at hfound
    rw [hfound]
    exact h.resolved entry hentry before hbefore

theorem stopReceipts_get {slots : List (Option Slot)} {receipts : List ReceiptState} {index : Nat}
    {receipt : ReceiptState} (h : receipts[index]? = some receipt) :
    (stopReceipts slots receipts)[index]? = some receipt ∨
      (stopReceipts slots receipts)[index]? = some receipt.resolveStopped := by
  have hidempotent : receipt.resolveStopped.resolveStopped = receipt.resolveStopped := rfl
  unfold stopReceipts
  induction slots.filterMap id generalizing receipts receipt with
  | nil => exact Or.inl h
  | cons slot rest ih =>
    rw [List.foldl_cons]
    by_cases hsame : slot.terminal = index
    · have hmodified : (receipts.modify slot.terminal (·.resolveStopped))[index]? =
          some receipt.resolveStopped := by
        rw [List.getElem?_modify, h]
        simp [hsame]
      rcases ih hmodified rfl with hfound | hfound
      · exact Or.inr hfound
      · exact Or.inr hfound
    · have hkept : (receipts.modify slot.terminal (·.resolveStopped))[index]? = some receipt := by
        rw [List.getElem?_modify, h]
        simp [hsame]
      exact ih hkept hidempotent

/-- A stop decides every admission of the line that is not durable yet. -/
theorem Line.stopAll (h : state.Line queued done places) {appends : List AppendIdentity}
    {durable handled : Nat} (reported : state.Reported queued appends durable handled) :
    state.stopAll.Ended queued appends durable handled := by
  refine ⟨stopped_stopAll state, ?_, ?_⟩
  · intro k entry hentry
    obtain ⟨receipt, hreceipt, hreports⟩ := reported k entry hentry
    rcases @stopReceipts_get state.slots _ _ _ hreceipt with hfound | hfound
    · exact ⟨receipt, hfound, hreports⟩
    · exact ⟨_, hfound, hreports.resolveStopped⟩
  · intro entry hentry
    refine resolved_stopReceipts ?_
    intro receipt hreceipt
    obtain ⟨k, hk⟩ := List.mem_iff_getElem?.mp hentry
    have hlt := (List.getElem?_eq_some_iff.mp hk).1
    have hlength := h.length
    by_cases hdurable : k < done.length
    · obtain ⟨found, committed, hfound, hknown⟩ := h.settled k _ (List.getElem?_eq_getElem hdurable)
      rw [hk] at hfound
      cases hfound
      rw [hreceipt] at hknown
      cases hknown
      exact Or.inl ⟨by simp, by simp⟩
    · have hplace := List.getElem?_eq_getElem (show k - done.length < places.length by omega)
      obtain ⟨found, hfound, slot, hslot, hterminal, -⟩ := h.stands (k - done.length) _ hplace
      rw [Nat.add_sub_cancel' (by omega), hk] at hfound
      cases hfound
      exact Or.inr ⟨slot, mem_occupied.mpr ⟨_, hslot⟩, hterminal⟩

end Reports

end IngressState

end Historian
