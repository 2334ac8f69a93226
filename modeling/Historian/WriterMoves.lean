import Historian.WriterFlow

namespace Historian

open Checks Files IngressState

namespace Writer

variable {writer next : Writer} {base : Nat} {queued : List Enqueued} {done : List AppendIdentity}
  {items : List Nat} {worker : StoreWorker}

variable {options : StoreOptions} {limits : ByteReservationLimits}

theorem Flowing.advances {done' : List AppendIdentity} {items' : List Nat} {worker' : StoreWorker}
    {durable handled : Nat} (h : next.Flowing base queued done' items' worker')
    (last : worker'.last = base + next.runtime.journal.length) (hdurable : durable ≤ done'.length)
    (hhandled : handled ≤ done'.length + (next.group worker').length)
    (hstep : done'.length + (next.group worker').length ≤ handled + 1) :
    next.Advances base queued durable handled :=
  ⟨_, _, .flowing h last, hdurable, hhandled, hstep⟩

/-- Nothing becomes durable or handled while the group stays as it is. -/
theorem Flowing.advances_of_group {items' : List Nat}
    (h : next.Flowing base queued done items' worker)
    (last : worker.last = base + next.runtime.journal.length)
    (hgroup : next.group worker = writer.group worker) :
    next.Advances base queued done.length (done.length + (writer.group worker).length) := by
  refine h.advances last (Nat.le_refl _) ?_ ?_
  · rw [hgroup]
  · rw [hgroup]
    exact Nat.le_succ _

theorem Flowing.submit (h : writer.Flowing base queued done items worker)
    (haccounted : writer.runtime.Accounted limits)
    (last : worker.last = base + writer.runtime.journal.length) {event : RuntimeEvent}
    (hsubmitter : event.ofSubmitter = true) {runtime : Runtime}
    (hruntime : writer.runtime.step event = some runtime) :
    ({ writer with runtime := runtime } : Writer).Advances base
      (queued ++ writer.runtime.enqueues event) done.length
      (done.length + (writer.group worker).length) := by
  obtain ⟨hcommands, hjournal⟩ := Runtime.submitter_keeps hsubmitter hruntime
  obtain ⟨hlatest, slots, hline, hring⟩ := haccounted.submits h.live h.line h.ring hsubmitter
    hruntime
  refine @Flowing.advances _ _ _ _ (items ++ slots) worker _ _ ?_ ?_ (Nat.le_refl _)
    (Nat.le_refl _) (Nat.le_succ _)
  · constructor
    case runs => exact h.runs
    case live =>
      change ¬runtime.shared.latest.current = none
      rw [hlatest]
      exact h.live
    case ring => exact hring
    case line =>
      have hahead : ({ writer with runtime := runtime } : Writer).ahead (items ++ slots) =
          writer.ahead items ++ slots.map .queued := by
        unfold ahead
        rw [hcommands, List.map_append, List.append_assoc]
      rw [hahead, ← List.append_assoc]
      exact hline
    case carries =>
      change writer.coordinator.Carries runtime.writer
      rw [hcommands]
      exact h.carries
    case appends =>
      change runtime.journal.map Prod.snd = done ++ (writer.group worker).map (·.append) ++
        runtime.writer.flatMap (·.appends)
      rw [hcommands, hjournal]
      exact h.appends
    case appended =>
      change AppendOrder base _ runtime.journal
      rw [hjournal]
      refine ⟨h.appended.ordered.trans ?_, h.appended.numbered⟩
      rw [List.map_append]
      exact List.prefix_append _ _
    case barriers => exact h.barriers
    case shutdown => exact h.shutdown
    case waits => exact h.waits
  · change worker.last = base + runtime.journal.length
    rw [hjournal]
    exact last

/-- A message enters the channel while nothing changes in the runtime. -/
theorem Flowing.sent (h : writer.Flowing base queued done items worker)
    {message : StoreWorkerMessage} {coordinator : Coordinator}
    (hentries : message.entries ++ coordinator.entries = writer.coordinator.entries)
    (hcarries : coordinator.Carries writer.runtime.writer)
    (hbarriers : writer.coordinator.barriers + message.barriers ≤ coordinator.barriers)
    (hshutdown : message ≠ .shutdown) (hwaits : coordinator ≠ .drained) :
    ({ writer with channel := writer.channel ++ [message], coordinator := coordinator } :
      Writer).Flowing base queued done items worker ∧
      ({ writer with channel := writer.channel ++ [message], coordinator := coordinator } :
        Writer).group worker = writer.group worker := by
  have hgroup : ({ writer with
      channel := writer.channel ++ [message]
      coordinator := coordinator } :
      Writer).group worker = writer.group worker := by
    simp [group, ← hentries]
  refine ⟨?_, hgroup⟩
  constructor
  case runs => exact h.runs
  case live => exact h.live
  case ring => exact h.ring
  case line =>
    rw [hgroup]
    exact h.line
  case carries => exact hcarries
  case appends =>
    rw [hgroup]
    exact h.appends
  case appended => exact h.appended
  case barriers =>
    have hbefore := h.barriers
    change ((writer.channel ++ [message]).map (·.barriers)).sum ≤ coordinator.barriers
    rw [List.map_append, List.sum_append, List.map_singleton, List.sum_singleton]
    omega
  case shutdown =>
    intro hmem
    rcases List.mem_append.mp hmem with hold | hnew
    · exact h.shutdown hold
    · exact hshutdown (List.mem_singleton.mp hnew).symm
  case waits => exact hwaits

theorem Flowing.exit (h : writer.Flowing base queued done items worker)
    (hbalanced : writer.runtime.shared.Balanced) :
    writer.exit.Advances base queued done.length (done.length + (writer.group worker).length) := by
  have hover := @Flowing.stop _ writer.exit _ _ _ _ _ h hbalanced rfl rfl (Or.inl rfl)
  exact hover.advances

theorem Flowing.send (h : writer.Flowing base queued done items worker)
    (hbalanced : writer.runtime.shared.Balanced)
    (last : worker.last = base + writer.runtime.journal.length) {message : StoreWorkerMessage}
    {coordinator : Coordinator}
    (hentries : message.entries ++ coordinator.entries = writer.coordinator.entries)
    (hcarries : coordinator.Carries writer.runtime.writer)
    (hbarriers : writer.coordinator.barriers + message.barriers ≤ coordinator.barriers)
    (hshutdown : message ≠ .shutdown) (hwaits : coordinator ≠ .drained) :
    (writer.send message coordinator).Advances base queued done.length
      (done.length + (writer.group worker).length) := by
  obtain ⟨hflows, hgroup⟩ := h.sent hentries hcarries hbarriers hshutdown hwaits
  unfold Writer.send
  split
  next hnone =>
    rw [h.runs] at hnone
    cases hnone
  next =>
    split
    next =>
      exact hflows.advances_of_group last hgroup
    next => exact h.exit hbalanced

theorem Flowing.call (h : writer.Flowing base queued done items worker)
    (last : worker.last = base + writer.runtime.journal.length) {message : StoreWorkerMessage}
    (hentries : message.entries = []) (hbarriers : message.barriers = 0)
    (hshutdown : message ≠ .shutdown) (hcall : writer.call message = some next) :
    next.Advances base queued done.length (done.length + (writer.group worker).length) := by
  obtain ⟨hflows, hgroup⟩ := @Flowing.sent _ _ _ _ _ _ h message writer.coordinator
    (by rw [hentries, List.nil_append]) h.carries (by omega) hshutdown h.waits
  unfold Writer.call at hcall
  split at hcall
  next =>
    split at hcall
    next hnone =>
      rw [h.runs] at hnone
      cases hnone
    next =>
      split at hcall
      next =>
        cases hcall
        exact hflows.advances_of_group last hgroup
      next =>
        cases hcall
        exact h.advances last (Nat.le_refl _) (Nat.le_refl _) (Nat.le_succ _)
  next => cases hcall

/-- What the coordinator carries, when its state is known. -/
theorem Flowing.carried (h : writer.Flowing base queued done items worker)
    {coordinator : Coordinator} (his : writer.coordinator = coordinator) :
    coordinator.Carries writer.runtime.writer := by
  rw [← his]
  exact h.carries

/-- The queue gave nothing to the coordinator. -/
theorem Flowing.waited (h : writer.Flowing base queued done [] worker)
    (hidle : writer.coordinator = .idle) {coordinator : Coordinator}
    (hentries : coordinator.entries = []) (hcarries : coordinator.Carries [])
    (hwaits : coordinator ≠ .drained) :
    ({ writer with
        runtime := { writer.runtime with shared := writer.runtime.shared.takeNext.2 }
        coordinator := coordinator } : Writer).Flowing base queued done [] worker ∧
      ({ writer with
          runtime := { writer.runtime with shared := writer.runtime.shared.takeNext.2 }
          coordinator := coordinator } : Writer).group worker = writer.group worker := by
  obtain ⟨-, hslots, hring, hlive⟩ := takeNext_nil h.ring
  have hcommands : writer.runtime.writer = [] := h.carried hidle
  have hgroup : ({ writer with
      runtime := { writer.runtime with shared := writer.runtime.shared.takeNext.2 }
      coordinator := coordinator } : Writer).group worker = writer.group worker := by
    unfold group
    rw [hidle, hentries]
    rfl
  refine ⟨?_, hgroup⟩
  constructor
  case runs => exact h.runs
  case live => exact hlive h.live
  case ring => exact hring
  case line =>
    rw [hgroup]
    refine h.line.unchanged hslots ?_
    rw [receipts_takeNext]
    exact Extends.refl _
  case carries =>
    change coordinator.Carries writer.runtime.writer
    rw [hcommands]
    exact hcarries
  case appends =>
    rw [hgroup]
    exact h.appends
  case appended => exact h.appended
  case barriers =>
    have hbefore := h.barriers
    rw [hidle] at hbefore
    exact Nat.le_trans hbefore (Nat.zero_le _)
  case shutdown => exact h.shutdown
  case waits => exact hwaits

/-- The coordinator finds no slot in the queue. -/
theorem Flowing.takeNext_empty (h : writer.Flowing base queued done [] worker)
    (haccounted : writer.runtime.Accounted limits)
    (last : worker.last = base + writer.runtime.journal.length)
    (hidle : writer.coordinator = .idle) :
    writer.takeNext.Advances base queued done.length
      (done.length + (writer.group worker).length) := by
  have hcommands : writer.runtime.writer = [] := h.carried hidle
  have hne := (takeNext_nil h.ring).1
  have htaken : writer.runtime.takeNext =
      { writer.runtime with shared := writer.runtime.shared.takeNext.2 } := by
    unfold Runtime.takeNext
    split
    next htake =>
      rw [htake] at hne
      exact absurd rfl (hne _ _ _ _)
    next htake => rw [htake]
  have hbalanced := (haccounted.leads (@Runtime.Leads.step _ _ .takeNext rfl)).balanced
  unfold Writer.takeNext
  rw [htaken] at hbalanced ⊢
  dsimp only
  split
  next hwork => exact absurd hwork (hne _ _ _ _)
  next =>
    obtain ⟨hflows, hgroup⟩ :=
      @Flowing.waited _ _ _ _ _ h hidle .barrierRequired rfl rfl (by simp)
    exact hflows.advances_of_group last hgroup
  next =>
    obtain ⟨hflows, hgroup⟩ := @Flowing.waited _ _ _ _ _ h hidle .idle rfl rfl (by simp)
    rw [← hidle] at hflows hgroup
    exact hflows.advances_of_group last hgroup
  next hdrained =>
    obtain ⟨hflows, hgroup⟩ := @Flowing.waited _ _ _ _ _ h hidle .idle rfl rfl (by simp)
    obtain ⟨hclosed, hslots, -⟩ := takeNext_drained hdrained
    have hstopped := stopped_section .takeNext ⟨hclosed, hslots⟩
    refine Over.advances ⟨Or.inr hcommands, ?_, Nat.le_add_right _ _, h.handled_le, h.appended⟩
    have hreported := hflows.reported hbalanced
    rw [hgroup] at hreported
    exact hflows.line.stopped hstopped hreported
  next =>
    obtain ⟨hflows, hgroup⟩ := @Flowing.waited _ _ _ _ _ h hidle .idle rfl rfl (by simp)
    have hended := hflows.exit hbalanced
    rw [hgroup] at hended
    exact hended

/-- The coordinator holds the slot at the front of the queue. -/
theorem Flowing.takeNext_slot {slotIndex : Nat}
    (h : writer.Flowing base queued done (slotIndex :: items) worker)
    (haccounted : writer.runtime.Accounted limits)
    (last : worker.last = base + writer.runtime.journal.length)
    (hidle : writer.coordinator = .idle) :
    writer.takeNext.Advances base queued done.length
      (done.length + (writer.group worker).length) := by
  have hcommands : writer.runtime.writer = [] := h.carried hidle
  have hline := h.line
  unfold ahead at hline
  rw [hcommands] at hline
  obtain ⟨prepared, priority, barrier, hwork, hafter, hring, hlatest⟩ :=
    hline.takeNext haccounted.balanced h.ring
  have htaken : writer.runtime.takeNext = { writer.runtime with
      shared := writer.runtime.shared.takeNext.2
      writer := [.taken slotIndex prepared] } := by
    unfold Runtime.takeNext
    rw [hcommands]
    cases htake : writer.runtime.shared.takeNext with
    | mk work shared =>
      rw [htake] at hwork
      cases hwork
      rfl
  have hgroup : ({ writer with
      runtime := { writer.runtime with
        shared := writer.runtime.shared.takeNext.2
        writer := [.taken slotIndex prepared] }
      coordinator := .holding slotIndex prepared priority barrier } : Writer).group worker =
        writer.group worker := by
    unfold group
    rw [hidle]
    rfl
  unfold Writer.takeNext
  rw [htaken, hwork]
  dsimp only
  refine @Flowing.advances_of_group _ _ _ _ _ worker items ?_ last hgroup
  constructor
  case runs => exact h.runs
  case live =>
    change ¬writer.runtime.shared.takeNext.2.latest.current = none
    rw [hlatest]
    exact h.live
  case ring => exact hring
  case line =>
    rw [hgroup]
    exact hafter
  case carries => rfl
  case appends =>
    rw [hgroup]
    have happends := h.appends
    rw [hcommands] at happends
    exact happends
  case appended => exact h.appended
  case barriers =>
    have hbefore := h.barriers
    rw [hidle] at hbefore
    exact hbefore
  case shutdown => exact h.shutdown
  case waits => simp

theorem Flowing.takeNext (h : writer.Flowing base queued done items worker)
    (haccounted : writer.runtime.Accounted limits)
    (last : worker.last = base + writer.runtime.journal.length)
    (hidle : writer.coordinator = .idle) :
    writer.takeNext.Advances base queued done.length
      (done.length + (writer.group worker).length) := by
  cases items with
  | nil => exact h.takeNext_empty haccounted last hidle
  | cons => exact h.takeNext_slot haccounted last hidle

theorem Flowing.preparePublication (h : writer.Flowing base queued done items worker)
    (haccounted : writer.runtime.Accounted limits)
    (last : worker.last = base + writer.runtime.journal.length) {entry : PublishedAppend}
    (happended : writer.coordinator = .appended entry)
    (hstep : writer.preparePublication entry = some next) :
    next.Advances base queued done.length (done.length + (writer.group worker).length) := by
  obtain ⟨admission, hcommands⟩ : ∃ admission,
      writer.runtime.writer = [.appended entry.slot admission entry.append] := h.carried happended
  obtain ⟨hslots, hqueue, hcurrent, hnone⟩ := publish_shared writer.runtime.shared entry.slot
    admission
  unfold Writer.preparePublication at hstep
  have hpublish : writer.runtime.step (.publish 0) =
      some (writer.runtime.publish 0 entry.slot admission entry.append) := by
    simp only [Runtime.step, hcommands, List.getElem?_cons_zero]
  rw [hpublish, Option.map_some, Option.some.injEq] at hstep
  subst hstep
  cases hprepare : writer.runtime.shared.preparePublication entry.slot admission with
  | mk prepared shared =>
    rw [hprepare] at hslots hqueue hcurrent hnone
    have hreceipts : shared.receipts = writer.runtime.shared.receipts := by
      have hsame := @receipts_preparePublication writer.runtime.shared entry.slot admission
      rw [hprepare] at hsame
      exact hsame
    cases prepared with
    | none =>
      have hsame : shared = writer.runtime.shared := hnone rfl
      have hpublished : writer.runtime.publish 0 entry.slot admission entry.append =
          { writer.runtime with shared := shared.stopAll, writer := [] } := by
        unfold Runtime.publish
        rw [hprepare, hcommands]
        rfl
      rw [hpublished, if_pos rfl]
      refine (h.stop haccounted.balanced ?_ ?_ (Or.inl rfl)).advances
      · change shared.stopAll.stopAll = _
        rw [stopAll_stopAll, hsame]
      · rfl
    | some preparation =>
      have hpublished : writer.runtime.publish 0 entry.slot admission entry.append =
          { writer.runtime with
            shared := shared
            writer := [.published entry.slot admission entry.append preparation] } := by
        unfold Runtime.publish
        rw [hprepare, hcommands]
        rfl
      rw [hpublished, if_neg (by simp)]
      have hgroup : ({ writer with
          runtime := { writer.runtime with
            shared := shared
            writer := [.published entry.slot admission entry.append preparation] }
          coordinator := .staged entry } : Writer).group worker = writer.group worker := by
        unfold group
        rw [happended]
        rfl
      refine @Flowing.advances_of_group _ _ _ _ _ worker items ?_ last hgroup
      constructor
      case runs => exact h.runs
      case live =>
        change ¬shared.latest.current = none
        rw [hcurrent]
        exact h.live
      case ring =>
        change shared.queue.Lists items
        rw [hqueue]
        exact h.ring
      case line =>
        rw [hgroup]
        have hline := h.line.unchanged hslots (by
          rw [hreceipts]
          exact Extends.refl _)
        unfold ahead at hline ⊢
        rw [hcommands] at hline
        exact hline
      case carries => exact ⟨admission, preparation, rfl⟩
      case appends =>
        rw [hgroup]
        have happends := h.appends
        rw [hcommands] at happends
        exact happends
      case appended => exact h.appended
      case barriers =>
        have hbefore := h.barriers
        rw [happended] at hbefore
        exact hbefore
      case shutdown => exact h.shutdown
      case waits => simp

theorem Flowing.finishHandled (h : writer.Flowing base queued done items worker)
    (haccounted : writer.runtime.Accounted limits)
    (last : worker.last = base + writer.runtime.journal.length) {entry : PublishedAppend}
    (hstaged : writer.coordinator = .staged entry)
    (hstep : writer.finishHandled entry = some next) :
    next.Advances base queued done.length (done.length + (writer.group worker).length) := by
  obtain ⟨admission, preparation, hcommands⟩ : ∃ admission preparation,
      writer.runtime.writer = [.published entry.slot admission entry.append preparation] :=
    h.carried hstaged
  have hcompletes : writer.runtime.step (.completeHandled 0) = some { writer.runtime with
      shared := (writer.runtime.shared.completeHandled entry.slot admission entry.append
        preparation).2
      writer := [] } := by
    simp only [Runtime.step, hcommands, List.getElem?_cons_zero, List.eraseIdx_cons_zero]
  unfold Writer.finishHandled at hstep
  rw [hcommands] at hstep
  dsimp only at hstep
  rw [hcompletes, Option.map_some, Option.some.injEq] at hstep
  subst hstep
  split
  next hdone =>
    have hline := h.line
    unfold ahead at hline
    rw [hcommands] at hline
    obtain ⟨hafter, hqueue, hlive⟩ := @Line.completeHandled _ _ _ _ _ entry.slot hline
      haccounted.balanced _ _ _ hdone
    have hgroup : ({ writer with
        runtime := { writer.runtime with
          shared := (writer.runtime.shared.completeHandled entry.slot admission entry.append
            preparation).2
          writer := [] }
        coordinator := .handled entry } : Writer).group worker =
          writer.group worker ++ [entry.pending] := by
      unfold group
      rw [hstaged]
      simp [Coordinator.entries]
    refine @Flowing.advances _ _ _ _ items worker _ _ ?_ last (Nat.le_refl _) ?_ ?_
    · constructor
      case runs => exact h.runs
      case live => exact hlive h.live
      case ring =>
        change (writer.runtime.shared.completeHandled _ _ _ _).2.queue.Lists items
        rw [hqueue]
        exact h.ring
      case line =>
        rw [hgroup, List.map_append, List.append_assoc]
        exact hafter
      case carries => rfl
      case appends =>
        rw [hgroup]
        have happends := h.appends
        rw [hcommands] at happends
        change writer.runtime.journal.map Prod.snd = _
        rw [happends]
        simp [InFlightCommand.appends, PublishedAppend.pending]
      case appended => exact h.appended
      case barriers =>
        have hbefore := h.barriers
        rw [hstaged] at hbefore
        exact hbefore
      case shutdown => exact h.shutdown
      case waits => simp
    · rw [hgroup, List.length_append]
      omega
    · rw [hgroup, List.length_append, List.length_singleton]
      omega
  next hrefused =>
    have hstopped := completeHandled_refused haccounted.balanced (by simpa using hrefused)
    refine (h.stop haccounted.balanced ?_ ?_ (Or.inl rfl)).advances
    · change (writer.runtime.shared.completeHandled _ _ _ _).2.stopAll = _
      rw [hstopped, stopAll_stopAll]
    · rfl

section Answers

variable {α : Type} {pending : List PendingDurable} {rest : List StoreWorkerMessage}

/-- The worker gives up, before or behind the commit of the group. -/
theorem Flowing.failed (h : writer.Flowing base queued done items worker)
    (hbalanced : writer.runtime.shared.Balanced)
    (hgroup : worker.pending ++ writer.channel.flatMap (·.entries) =
      pending ++ rest.flatMap (·.entries))
    (hsuffix : rest <:+ writer.channel) {left : List PendingDurable} {before : IngressState}
    (hcommits : CommitsGroup pending writer.runtime.shared left before)
    (hshared : next.runtime.shared = before.stopAll)
    (hjournal : next.runtime.journal = writer.runtime.journal)
    (hquiet : next.worker = none ∨ next.runtime.writer = []) :
    next.Advances base queued done.length (done.length + (writer.group worker).length) := by
  obtain ⟨done', hflows, hbalanced', hdurable, hhandled⟩ :=
    @Flowing.commit _ _ _ _ _ _ h hbalanced _ { worker with pending := left } _ _ writer.directory
      hgroup hsuffix hcommits
  have hover := hflows.stop hbalanced' hshared hjournal hquiet
  exact ⟨_, _, .halted hover, hdurable, by omega, by omega⟩

theorem settle_ok {turn : Turn α} {output : α} (h : turn.result = .ok output) :
    writer.settle turn rest = { writer.setShared turn.shared with
      channel := rest
      worker := some turn.worker
      directory := applyAll writer.directory turn.effects } := by
  unfold Writer.settle
  rw [h]

/-- A turn that appends nothing. -/
theorem Flowing.settle (h : writer.Flowing base queued done items worker)
    (hbalanced : writer.runtime.shared.Balanced)
    (last : worker.last = base + writer.runtime.journal.length) {turn : Turn α}
    (hgroup : worker.pending ++ writer.channel.flatMap (·.entries) =
      pending ++ rest.flatMap (·.entries))
    (hsuffix : rest <:+ writer.channel)
    (hturn : turn.Ends (fun _ next after => next.last = worker.last ∧
        CommitsGroup pending writer.runtime.shared next.pending after)
      (fun before => ∃ left, CommitsGroup pending writer.runtime.shared left before)) :
    (writer.settle turn rest).Advances base queued done.length
      (done.length + (writer.group worker).length) := by
  cases hresult : turn.result with
  | ok output =>
    obtain ⟨hlast, hcommits⟩ := hturn.ok output hresult
    obtain ⟨done', hflows, -, hdurable, hhandled⟩ :=
      h.commit hbalanced (d := applyAll writer.directory turn.effects) hgroup hsuffix hcommits
    rw [settle_ok hresult]
    exact hflows.advances (hlast.trans last) hdurable (by omega) (by omega)
  | error error =>
    obtain ⟨before, ⟨left, hcommits⟩, hshared⟩ := hturn.error error hresult
    refine h.failed hbalanced hgroup hsuffix hcommits hshared rfl (Or.inl ?_)
    unfold Writer.settle
    rw [hresult]

/-- A barrier that is answered: the coordinator was the one that waited. -/
theorem Flowing.answerBarrier (h : writer.Flowing base queued done items worker)
    (hbalanced : writer.runtime.shared.Balanced)
    (last : worker.last = base + writer.runtime.journal.length)
    (hchannel : writer.channel = .barrier :: rest) {turn : Turn Unit}
    (hturn : turn.Ends (fun _ => worker.Flushes writer.runtime.shared)
      (worker.Reaches writer.runtime.shared)) :
    (writer.answerBarrier turn rest).Advances base queued done.length
      (done.length + (writer.group worker).length) := by
  have hgroup : worker.pending ++ writer.channel.flatMap (·.entries) =
      worker.pending ++ rest.flatMap (·.entries) := by
    rw [hchannel]
    rfl
  have hsuffix : rest <:+ writer.channel := by
    rw [hchannel]
    exact List.suffix_cons _ _
  have hbarriers := h.barriers
  rw [hchannel, List.map_cons, List.sum_cons] at hbarriers
  have hawaits : writer.coordinator = .awaitingBarrier := by
    cases hcoordinator : writer.coordinator with
    | awaitingBarrier => rfl
    | _ =>
      rw [hcoordinator] at hbarriers
      simp [StoreWorkerMessage.barriers, Coordinator.barriers] at hbarriers
  unfold Writer.answerBarrier
  cases hresult : turn.result with
  | ok output =>
    obtain ⟨hlast, hcommits⟩ := hturn.ok output hresult
    obtain ⟨done', hflows, -, hdurable, hhandled⟩ :=
      h.commit hbalanced (d := applyAll writer.directory turn.effects) hgroup hsuffix hcommits
    dsimp only
    rw [settle_ok hresult]
    have hsame : ({ writer.setShared turn.shared with
        coordinator := .idle
        channel := rest
        worker := some turn.worker
        directory := applyAll writer.directory turn.effects } : Writer).group turn.worker =
      ({ writer.setShared turn.shared with
        channel := rest
        worker := some turn.worker
        directory := applyAll writer.directory turn.effects } : Writer).group turn.worker := by
      unfold group setShared
      rw [hawaits]
      rfl
    refine @Flowing.advances _ _ _ done' items turn.worker _ _ ?_ (hlast.trans last) hdurable
      ?_ ?_
    · constructor
      case runs => rfl
      case live => exact hflows.live
      case ring => exact hflows.ring
      case line =>
        rw [hsame]
        exact hflows.line
      case carries =>
        have hcarried := hflows.carries
        change writer.coordinator.Carries writer.runtime.writer at hcarried
        rw [hawaits] at hcarried
        exact hcarried
      case appends =>
        rw [hsame]
        exact hflows.appends
      case appended => exact hflows.appended
      case barriers =>
        change (rest.map _).sum ≤ 0
        rw [hawaits] at hbarriers
        have hone : Coordinator.awaitingBarrier.barriers = 1 := rfl
        have hhead : StoreWorkerMessage.barrier.barriers = 1 := rfl
        omega
      case shutdown => exact hflows.shutdown
      case waits => simp
    · rw [hsame]
      omega
    · rw [hsame]
      omega
  | error error =>
    obtain ⟨before, ⟨left, hcommits⟩, hshared⟩ := hturn.error error hresult
    refine h.failed hbalanced hgroup hsuffix hcommits ?_ rfl (Or.inl rfl)
    change turn.shared.stopAll = _
    rw [hshared, stopAll_stopAll]

/-- The command in flight is the first of the queued admissions that nothing is appended for. -/
theorem Flowing.owner (h : writer.Flowing base queued done items worker)
    (hinv : writer.runtime.Inv) {slotIndex : Nat} {taken : PreparedAdmissionV1}
    (hcommands : writer.runtime.writer = [.taken slotIndex taken]) :
    (queued.map (·.qualification))[writer.runtime.journal.length]? =
      some taken.admission.retry := by
  have hlength := congrArg List.length h.appends
  simp only [hcommands, List.length_map, List.length_append, List.flatMap_cons,
    InFlightCommand.appends, List.flatMap_nil, List.length_nil, Nat.add_zero] at hlength
  obtain ⟨first, hfirst, found, hfound, -, hqualification, -⟩ :=
    h.line.stands (writer.group worker).length (.flying slotIndex) (by
      rw [List.getElem?_append_right (by rw [List.length_map]), List.length_map, Nat.sub_self]
      simp [ahead, hcommands, InFlightCommand.place, InFlightCommand.slotIndex])
  rw [List.getElem?_map, hlength, hfirst]
  rcases hinv.writer 0 (.taken slotIndex taken) (by simp [hcommands]) with
    ⟨-, hnone⟩ | ⟨held, hheld, -, hretry⟩
  · cases (hnone slotIndex).symm.trans hfound
  · have hsame : held = found := Option.some.inj (hheld.symm.trans hfound)
    rw [Option.map_some, ← hqualification, ← hsame]
    exact congrArg some hretry

/-- The command in flight is appended with the next sequence. -/
theorem Flowing.append (h : writer.Flowing base queued done items worker)
    (hinv : writer.runtime.Inv) {entry : PublishedAppend} {taken : PreparedAdmissionV1}
    {priority : AdmissionPriority} {barrier : BarrierDemand} {frameBytes : Nat}
    (hawaits : writer.coordinator = .awaitingAppend entry.slot priority barrier frameBytes)
    (hcommands : writer.runtime.writer = [.taken entry.slot taken])
    (hsequence : entry.append.appendSequence.val = base + writer.runtime.journal.length + 1) :
    ({ writer with
        runtime := { writer.runtime with
          writer := [.appended entry.slot taken.admission entry.append]
          journal := writer.runtime.journal ++ [(taken.admission.retry, entry.append)] }
        coordinator := .appended entry } : Writer).Flowing base queued done items worker ∧
      ({ writer with
        runtime := { writer.runtime with
          writer := [.appended entry.slot taken.admission entry.append]
          journal := writer.runtime.journal ++ [(taken.admission.retry, entry.append)] }
        coordinator := .appended entry } : Writer).group worker = writer.group worker := by
  have hgroup : ({ writer with
      runtime := { writer.runtime with
        writer := [.appended entry.slot taken.admission entry.append]
        journal := writer.runtime.journal ++ [(taken.admission.retry, entry.append)] }
      coordinator := .appended entry } : Writer).group worker = writer.group worker := by
    unfold group
    rw [hawaits]
    rfl
  refine ⟨?_, hgroup⟩
  constructor
  case runs => exact h.runs
  case live => exact h.live
  case ring => exact h.ring
  case line =>
    have hline := h.line
    rw [hgroup]
    unfold ahead at hline ⊢
    rw [hcommands] at hline
    exact hline
  case carries => exact ⟨taken.admission, rfl⟩
  case appends =>
    have happends := h.appends
    rw [hcommands] at happends
    rw [hgroup, List.map_append, happends]
    simp [InFlightCommand.appends]
  case appended =>
    refine ⟨?_, ?_⟩
    · rw [List.map_append]
      refine prefix_snoc h.appended.ordered ?_
      rw [List.length_map]
      exact h.owner hinv hcommands
    · intro k found hk
      rw [List.getElem?_append] at hk
      split at hk
      next => exact h.appended.numbered k found hk
      next hle =>
        have hbound := (List.getElem?_eq_some_iff.mp hk).1
        rw [List.length_singleton] at hbound
        have hindex : k = writer.runtime.journal.length := by omega
        rw [hindex, Nat.sub_self] at hk
        cases hk
        rw [hindex]
        exact hsequence
  case barriers =>
    have hbefore := h.barriers
    rw [hawaits] at hbefore
    exact hbefore
  case shutdown => exact h.shutdown
  case waits => simp

/-- An append that is answered: its frame has the next sequence, and it belongs to the first
admission that is not handled. -/
theorem Flowing.answerAppend (h : writer.Flowing base queued done items worker)
    (haccounted : writer.runtime.Accounted limits)
    (last : worker.last = base + writer.runtime.journal.length) {slot : Nat}
    {prepared : PreparedAdmissionV1} (hchannel : writer.channel = .append slot prepared :: rest)
    {turn : Turn AppendResult} {L : ActiveJournalLimits}
    (hfrom : turn.From L writer.runtime.shared)
    (hturn : turn.Ends (worker.Appends writer.runtime.shared)
      (worker.Reaches writer.runtime.shared)) :
    (writer.answerAppend turn rest).Advances base queued done.length
      (done.length + (writer.group worker).length) := by
  have hgroup : worker.pending ++ writer.channel.flatMap (·.entries) =
      worker.pending ++ rest.flatMap (·.entries) := by
    rw [hchannel]
    rfl
  have hsuffix : rest <:+ writer.channel := by
    rw [hchannel]
    exact List.suffix_cons _ _
  have hsettled := (haccounted.leads (leads_settle hfrom rest)).inv
  unfold Writer.answerAppend
  cases hresult : turn.result with
  | error error =>
    obtain ⟨before, ⟨left, hcommits⟩, hshared⟩ := hturn.error error hresult
    refine h.failed haccounted.balanced hgroup hsuffix hcommits ?_ rfl (Or.inl rfl)
    change turn.shared.stopAll = _
    rw [hshared, stopAll_stopAll]
  | ok result =>
    obtain ⟨hsequence, hlast, hcommits⟩ := hturn.ok result hresult
    obtain ⟨done', hflows, -, hdurable, hhandled⟩ := h.commit haccounted.balanced
      (d := applyAll writer.directory turn.effects) hgroup hsuffix hcommits
    rw [settle_ok hresult] at hsettled ⊢
    cases hcoordinator : writer.coordinator with
    | awaitingAppend own priority barrier frameBytes =>
      obtain ⟨taken, hcommands⟩ : ∃ taken, writer.runtime.writer = [.taken own taken] :=
        h.carried hcoordinator
      have hstep : ({ writer.runtime with shared := turn.shared } : Runtime).step
          (.append 0 result.append) = some { writer.runtime with
            shared := turn.shared
            writer := [.appended own taken.admission result.append]
            journal := writer.runtime.journal ++ [(taken.admission.retry, result.append)] } := by
        simp only [Runtime.step, hcommands, List.getElem?_cons_zero, List.set_cons_zero]
      obtain ⟨hmoved, hsame⟩ := @Flowing.append _ _ _ _ _ _ hflows hsettled
        ⟨own, priority, barrier, frameBytes, result.admission.retry, result.append⟩ taken _ _ _
        hcoordinator hcommands (by
          rw [hsequence, last]
          rfl)
      dsimp only [setShared]
      rw [hstep]
      refine hmoved.advances ?_ hdurable ?_ ?_
      · rw [hlast, last, List.length_append]
        exact Nat.add_assoc _ _ _
      · rw [hsame]
        omega
      · rw [hsame]
        omega
    | _ => exact h.failed haccounted.balanced hgroup hsuffix hcommits rfl rfl (Or.inl rfl)

/-- What the worker makes of the message at the head of the channel. -/
theorem Flowing.handle (h : writer.Flowing base queued done items worker)
    (haccounted : writer.runtime.Accounted limits) (hsized : writer.Sized options)
    (last : worker.last = base + writer.runtime.journal.length) {message : StoreWorkerMessage}
    (hchannel : writer.channel = message :: rest) (aged : Bool) :
    (writer.handle options worker aged rest message).Advances base queued done.length
      (done.length + (writer.group worker).length) := by
  have hsuffix : rest <:+ writer.channel := by
    rw [hchannel]
    exact List.suffix_cons _ _
  have hsame : message.entries = [] → worker.pending ++ writer.channel.flatMap (·.entries) =
      worker.pending ++ rest.flatMap (·.entries) := by
    intro hnone
    rw [hchannel, List.flatMap_cons, hnone, List.nil_append]
  cases message with
  | append slot prepared =>
    have haccepted := hsized.sent slot prepared (by simp [hchannel])
    exact h.answerAppend haccounted last hchannel (StoreWorker.from_handleAppend rfl _ _ _ _ _)
      (StoreWorker.ends_handleAppend haccounted.balanced slot haccepted.built haccepted.encoded
        aged)
  | published entry =>
    have hgroup : worker.pending ++ writer.channel.flatMap (·.entries) =
        (worker.join entry).pending ++ rest.flatMap (·.entries) := by
      rw [hchannel, List.flatMap_cons]
      simp [StoreWorkerMessage.entries, StoreWorker.join]
    exact h.settle haccounted.balanced last hgroup hsuffix
      (StoreWorker.ends_handlePublished haccounted.balanced options entry aged)
  | barrier =>
    exact h.answerBarrier haccounted.balanced last hchannel
      (StoreWorker.ends_handleBarrier haccounted.balanced)
  | registry operation =>
    exact h.settle haccounted.balanced last (hsame rfl) hsuffix
      (StoreWorker.ends_handleRegistry operation)
  | bind envelope =>
    exact h.settle haccounted.balanced last (hsame rfl) hsuffix
      (StoreWorker.ends_handleBind envelope)
  | shutdown =>
    refine absurd ?_ h.shutdown
    rw [hchannel]
    exact List.mem_cons_self

end Answers

theorem Flowing.step (h : writer.Flowing base queued done items worker)
    (haccounted : writer.runtime.Accounted limits) (hsized : writer.Sized options)
    (last : worker.last = base + writer.runtime.journal.length) {event : WriterEvent}
    (hstep : writer.step options event = some next) :
    next.Advances base (queued ++ writer.enqueues event) done.length
      (done.length + (writer.group worker).length) := by
  cases event with
  | submitter event =>
    simp only [Writer.step] at hstep
    split at hstep
    next hsubmitter =>
      rw [Option.map_eq_some_iff] at hstep
      obtain ⟨runtime, hruntime, rfl⟩ := hstep
      exact h.submit haccounted last hsubmitter hruntime
    next => cases hstep
  | registry operation =>
    simp only [enqueues, List.append_nil]
    exact h.call last rfl rfl (by simp) hstep
  | bind envelope =>
    simp only [enqueues, List.append_nil]
    exact h.call last rfl rfl (by simp) hstep
  | takeNext =>
    simp only [enqueues, List.append_nil]
    simp only [Writer.step] at hstep
    split at hstep
    next hidle =>
      cases hstep
      exact h.takeNext haccounted last hidle
    next => cases hstep
  | sendAppend =>
    simp only [enqueues, List.append_nil]
    simp only [Writer.step] at hstep
    split at hstep
    next slot prepared priority barrier hholding =>
      cases hstep
      have hcarried := h.carried hholding
      refine h.send haccounted.balanced last ?_ ⟨prepared, hcarried⟩ ?_ (by simp) (by simp)
      · rw [hholding]
        rfl
      · rw [hholding]
        exact Nat.le_refl _
    next => cases hstep
  | preparePublication =>
    simp only [enqueues, List.append_nil]
    simp only [Writer.step] at hstep
    split at hstep
    next entry happended => exact h.preparePublication haccounted last happended hstep
    next => cases hstep
  | finishHandled =>
    simp only [enqueues, List.append_nil]
    simp only [Writer.step] at hstep
    split at hstep
    next entry hstaged => exact h.finishHandled haccounted last hstaged hstep
    next => cases hstep
  | sendPublished =>
    simp only [enqueues, List.append_nil]
    simp only [Writer.step] at hstep
    split at hstep
    next entry hhandled =>
      cases hstep
      have hcarried := h.carried hhandled
      refine h.send haccounted.balanced last ?_ hcarried ?_ (by simp) (by simp)
      · rw [hhandled]
        rfl
      · rw [hhandled]
        exact Nat.le_refl _
    next => cases hstep
  | sendBarrier =>
    simp only [enqueues, List.append_nil]
    simp only [Writer.step] at hstep
    split at hstep
    next hrequired =>
      cases hstep
      have hcarried := h.carried hrequired
      refine h.send haccounted.balanced last ?_ hcarried ?_ (by simp) (by simp)
      · rw [hrequired]
        rfl
      · rw [hrequired]
        exact Nat.le_refl _
    next => cases hstep
  | sendShutdown =>
    simp only [Writer.step] at hstep
    split at hstep
    next hdrained => exact absurd hdrained h.waits
    next => cases hstep
  | work aged =>
    simp only [enqueues, List.append_nil]
    simp only [Writer.step] at hstep
    split at hstep
    next found message rest hworker hchannel =>
      cases hstep
      rw [h.runs] at hworker
      cases hworker
      exact h.handle haccounted hsized last hchannel aged
    next => cases hstep
  | timeout =>
    simp only [enqueues, List.append_nil]
    simp only [Writer.step] at hstep
    split at hstep
    next found hworker =>
      rw [h.runs] at hworker
      cases hworker
      split at hstep
      next =>
        cases hstep
        exact h.settle haccounted.balanced last rfl (List.suffix_refl _)
          (StoreWorker.ends_flushPending haccounted.balanced)
      next => cases hstep
    next => cases hstep
  | dropRuntime =>
    simp only [enqueues, List.append_nil]
    cases hstep
    exact h.exit haccounted.balanced

end Writer

end Historian
