import Historian.RegistryCalls

namespace Historian

open Checks

/-- A coherent history whose neighbours differ and whose retirement names the last declaration. -/
structure SeriesHistory.Sound (history : SeriesHistory) (storeId : StoreId) (count : Nat) : Prop
    extends history.Coherent storeId count where
  changes : history.declarations.IsChain fun earlier later => earlier.payload ≠ later.payload
  retired : ∀ retirement, history.retirement = some retirement →
    ∃ last, history.latestDeclaration = some last ∧ last.revision = retirement.declarationRevision

structure SeriesRegistry.Sound (registry : SeriesRegistry) : Prop where
  ordered : SortedMap.Ordered Identity.lt registry.series
  histories : ∀ (seriesId : SeriesId) (history : SeriesHistory),
    registry.history seriesId = some history → history.seriesId = seriesId ∧
      history.Sound registry.storeId registry.declarationRevisionCount
  counted : registry.declarationRevisionCount =
    (registry.series.map fun entry => entry.2.declarations.length).sum
  count_le : registry.declarationRevisionCount ≤ registry.limits.maxDeclarationRevisions.val
  series_le : registry.series.length ≤ registry.limits.maxSeries.val

namespace SeriesRegistry

variable {registry next : SeriesRegistry}

theorem sound_new (storeId : StoreId) (limits : SeriesRegistryLimits) :
    (new storeId limits).Sound := by
  refine ⟨List.Pairwise.nil, ?_, rfl, Nat.zero_le _, Nat.zero_le _⟩
  intro seriesId history h
  cases h

/-- What changes and retires in a history carries over to a registry with a larger count. -/
theorem Sound.carry (h : registry.Sound) (hc : next.Coherent) {seriesId : SeriesId}
    {history : SeriesHistory} (hbefore : registry.history seriesId = some history)
    (hafter : next.history seriesId = some history) :
    history.seriesId = seriesId ∧ history.Sound next.storeId next.declarationRevisionCount := by
  obtain ⟨hkey, hcoherent⟩ := hc.histories seriesId history hafter
  obtain ⟨-, hsound⟩ := h.histories seriesId history hbefore
  exact ⟨hkey, hcoherent, hsound.changes, hsound.retired⟩

theorem Sound.register (h : registry.Sound) {seriesId : SeriesId} {binding : SeriesBinding}
    {payload : SeriesDeclarationPayload} {evidence : DeclarationEvidence}
    {declaration : SeriesDeclaration} (hc : next.Coherent)
    (hstep : registry.register seriesId binding payload evidence = .ok (declaration, next)) :
    next.Sound := by
  obtain ⟨rfl, -⟩ | ⟨hnone, hseries, hcount, -, hnext⟩ := register_answers hstep
  · exact h
  · have hlength : next.series.length = registry.series.length + 1 := by
      rw [hnext]
      exact SortedMap.length_insert hnone
    have hsum : (next.series.map fun entry => entry.2.declarations.length).sum =
        (registry.series.map fun entry => entry.2.declarations.length).sum + 1 := by
      rw [hnext]
      exact SortedMap.sum_insert (fun history => history.declarations.length) hnone
    refine ⟨?_, ?_, ?_, hc.count_le, ?_⟩
    · rw [hnext]
      exact @SortedMap.Ordered.insert _ _ _ Identity.lt Identity.lt_trans Identity.lt_of_not_lt
        _ _ _ h.ordered hnone
    · intro j history hj
      obtain ⟨hkey, hcoherent⟩ := hc.histories j history hj
      have hfound := hj
      rw [hnext, SeriesRegistry.history, SortedMap.get?_insert] at hfound
      split at hfound
      next =>
        refine ⟨hkey, hcoherent, ?_, ?_⟩
        · cases hfound
          exact List.isChain_singleton _
        · intro retirement hretired
          cases hfound
          cases hretired
      next => exact h.carry hc hfound hj
    · rw [hsum, hnext, ← h.counted]
    · rw [hlength, hnext]
      exact hseries

theorem Sound.revise (h : registry.Sound) {seriesId : SeriesId}
    {expectedRevision : DeclarationRevision} {payload : SeriesDeclarationPayload}
    {evidence : DeclarationEvidence} {declaration : SeriesDeclaration} (hc : next.Coherent)
    (hstep : registry.revise seriesId expectedRevision payload evidence =
      .ok (declaration, next)) : next.Sound := by
  obtain ⟨history, current, hh, hopen, hlatest, ⟨rfl, -⟩ | ⟨-, hchanged, -, hnew, hnext⟩⟩ :=
    revise_answers hstep
  · exact h
  · have hsum := SortedMap.sum_modify (f := fun h : SeriesHistory =>
      { h with declarations := h.declarations ++ [declaration] })
      (fun history => history.declarations.length) hh
    simp only [List.length_append, List.length_singleton] at hsum
    refine ⟨?_, ?_, ?_, hc.count_le, ?_⟩
    · rw [hnext]
      exact h.ordered.modify _ _
    · intro j other hj
      obtain ⟨hkey, hcoherent⟩ := hc.histories j other hj
      have hfound := hj
      rw [hnext] at hfound
      obtain ⟨rfl, rfl⟩ | hfound := get?_modify_cases hh hfound
      · refine ⟨hkey, hcoherent, ?_, ?_⟩
        · refine (h.histories j history hh).2.changes.append (List.isChain_singleton _) ?_
          intro last hlast first hfirst
          have hcurrent : last = current := Option.some.inj (hlast.symm.trans hlatest)
          cases hfirst
          rw [hcurrent, hnew]
          exact hchanged
        · intro retirement hretired
          rw [hopen] at hretired
          cases hretired
      · exact h.carry hc hfound hj
    · have hcounted := h.counted
      rw [hnext]
      dsimp only
      omega
    · rw [hnext]
      dsimp only
      rw [SortedMap.length_modify]
      exact h.series_le

theorem Sound.retire (h : registry.Sound) {seriesId : SeriesId}
    {expectedRevision : DeclarationRevision} {evidence : DeclarationEvidence}
    {retirement : SeriesRetirement} (hc : next.Coherent)
    (hstep : registry.retire seriesId expectedRevision evidence = .ok (retirement, next)) :
    next.Sound := by
  obtain ⟨hanswer, history, hh, ⟨rfl, -⟩ | ⟨latest, hopen, hlatest, hrevision, hnext⟩⟩ :=
    retire_answers hstep
  · exact h
  · have hsum := SortedMap.sum_modify (f := fun h : SeriesHistory =>
      { h with retirement := some retirement }) (fun history => history.declarations.length) hh
    dsimp only at hsum
    refine ⟨?_, ?_, ?_, hc.count_le, ?_⟩
    · rw [hnext]
      exact h.ordered.modify _ _
    · intro j other hj
      obtain ⟨hkey, hcoherent⟩ := hc.histories j other hj
      have hfound := hj
      rw [hnext] at hfound
      obtain ⟨rfl, rfl⟩ | hfound := get?_modify_cases hh hfound
      · refine ⟨hkey, hcoherent, (h.histories j history hh).2.changes, ?_⟩
        intro closed hclosed
        cases hclosed
        rw [hanswer]
        exact ⟨latest, hlatest, hrevision⟩
      · exact h.carry hc hfound hj
    · have hcounted := h.counted
      rw [hnext]
      dsimp only
      omega
    · rw [hnext]
      dsimp only
      rw [SortedMap.length_modify]
      exact h.series_le

theorem Reachable.sound (h : registry.Reachable) : registry.Sound := by
  induction h with
  | new storeId limits => exact sound_new storeId limits
  | register prior step ih => exact ih.register (prior.register step).coherent step
  | revise prior step ih => exact ih.revise (prior.revise step).coherent step
  | retire prior step ih => exact ih.retire (prior.retire step).coherent step

/-- A property of what a call leaves holds when it holds of a registry that no call changed and
of the one that each method returns. -/
theorem call_rule {motive : SeriesRegistry → Prop} (registry : SeriesRegistry)
    (call : RegistryCall) (refused : motive registry)
    (register : ∀ {next seriesId binding payload evidence declaration},
      registry.register seriesId binding payload evidence = .ok (declaration, next) → motive next)
    (revise : ∀ {next seriesId expectedRevision payload evidence declaration},
      registry.revise seriesId expectedRevision payload evidence = .ok (declaration, next) →
        motive next)
    (retire : ∀ {next seriesId expectedRevision evidence retirement},
      registry.retire seriesId expectedRevision evidence = .ok (retirement, next) →
        motive next) : motive (registry.call call).2 := by
  cases call with
  | register seriesId binding payload evidence =>
    rw [call_register]
    cases hresult : registry.register seriesId binding payload evidence with
    | error error => exact refused
    | ok output => exact register hresult
  | revise seriesId expectedRevision payload evidence =>
    rw [call_revise]
    cases hresult : registry.revise seriesId expectedRevision payload evidence with
    | error error => exact refused
    | ok output => exact revise hresult
  | retire seriesId expectedRevision evidence =>
    rw [call_retire]
    cases hresult : registry.retire seriesId expectedRevision evidence with
    | error error => exact refused
    | ok output => exact retire hresult

theorem Reachable.call (h : registry.Reachable) (call : RegistryCall) :
    (registry.call call).2.Reachable :=
  call_rule registry call h h.register h.revise h.retire

theorem after_cons (registry : SeriesRegistry) (call : RegistryCall) (calls : List RegistryCall) :
    registry.after (call :: calls) = (registry.call call).2.after calls := rfl

theorem Reachable.after (h : registry.Reachable) (calls : List RegistryCall) :
    (registry.after calls).Reachable := by
  induction calls generalizing registry with
  | nil => exact h
  | cons call rest ih => exact ih (h.call call)

theorem Extends.refl (registry : SeriesRegistry) : registry.Extends registry :=
  fun _ _ _ hfound => hfound

theorem extends_call (registry : SeriesRegistry) (call : RegistryCall) :
    (registry.call call).2.Extends registry :=
  call_rule (motive := fun next => next.Extends registry) registry call (Extends.refl registry)
    extends_register extends_revise extends_retire

/-- What is resolved once is resolved the same behind every list of calls. -/
theorem extends_after (registry : SeriesRegistry) (calls : List RegistryCall) :
    (registry.after calls).Extends registry := by
  induction calls generalizing registry with
  | nil => exact Extends.refl registry
  | cons call rest ih =>
    intro seriesId revision declaration hfound
    exact ih (registry.call call).2 seriesId revision declaration
      (extends_call registry call seriesId revision declaration hfound)

end SeriesRegistry

/-- The history of a series shows what a call on it was answered. -/
def RegistryCall.Answered (history : SeriesHistory) : RegistryCall → RegistryAnswer → Prop
  | .register _ binding payload evidence, .declared declaration =>
    history.retirement = none ∧ history.declarations = [declaration] ∧
      history.binding = binding ∧ declaration.payload = payload ∧ declaration.evidence = evidence
  | .revise _ expectedRevision payload evidence, .declared declaration =>
    history.retirement = none ∧ history.latestDeclaration = some declaration ∧
      declaration.previousRevision = some expectedRevision ∧ declaration.payload = payload ∧
      declaration.evidence = evidence
  | .retire _ expectedRevision evidence, .retired retirement =>
    history.retirement = some retirement ∧ retirement = ⟨expectedRevision, evidence⟩
  | _, _ => False

namespace SeriesRegistry

variable {registry next : SeriesRegistry}

theorem settle_ok {α : Type} {answer : α → RegistryAnswer}
    {result : Except ModelError (α × SeriesRegistry)} {answered : RegistryAnswer}
    (h : registry.settle answer result = (.ok answered, next)) :
    ∃ output, result = .ok (output, next) ∧ answered = answer output := by
  cases result with
  | error error => cases h
  | ok output =>
    cases h
    exact ⟨output.1, rfl, rfl⟩

theorem answered_register {seriesId : SeriesId} {binding : SeriesBinding}
    {payload : SeriesDeclarationPayload} {evidence : DeclarationEvidence}
    {declaration : SeriesDeclaration}
    (h : registry.register seriesId binding payload evidence = .ok (declaration, next)) :
    ∃ history, next.history seriesId = some history ∧
      (RegistryCall.register seriesId binding payload evidence).Answered history
        (.declared declaration) := by
  obtain ⟨rfl, history, hh, hanswer⟩ | ⟨-, -, -, hnew, hnext⟩ := register_answers h
  · exact ⟨history, hh, hanswer⟩
  · refine ⟨⟨seriesId, binding, [declaration], none⟩, ?_, rfl, rfl, rfl, ?_, ?_⟩
    · rw [hnext, SeriesRegistry.history, SortedMap.get?_insert, if_pos rfl]
    · rw [hnew]
    · rw [hnew]

theorem answered_revise {seriesId : SeriesId} {expectedRevision : DeclarationRevision}
    {payload : SeriesDeclarationPayload} {evidence : DeclarationEvidence}
    {declaration : SeriesDeclaration}
    (h : registry.revise seriesId expectedRevision payload evidence = .ok (declaration, next)) :
    ∃ history, next.history seriesId = some history ∧
      (RegistryCall.revise seriesId expectedRevision payload evidence).Answered history
        (.declared declaration) := by
  obtain ⟨history, current, hh, hopen, hlatest, ⟨rfl, rfl, hanswer⟩ | ⟨-, -, -, hnew, hnext⟩⟩ :=
    revise_answers h
  · exact ⟨history, hh, hopen, hlatest, hanswer⟩
  · refine ⟨{ history with declarations := history.declarations ++ [declaration] }, ?_, hopen,
      List.getLast?_concat, ?_, ?_, ?_⟩
    · rw [hnext, SeriesRegistry.history, SortedMap.get?_modify, if_pos rfl]
      rw [show SortedMap.get? seriesId registry.series = some history from hh]
      rfl
    · rw [hnew]
    · rw [hnew]
    · rw [hnew]

theorem answered_retire {seriesId : SeriesId} {expectedRevision : DeclarationRevision}
    {evidence : DeclarationEvidence} {retirement : SeriesRetirement}
    (h : registry.retire seriesId expectedRevision evidence = .ok (retirement, next)) :
    ∃ history, next.history seriesId = some history ∧
      (RegistryCall.retire seriesId expectedRevision evidence).Answered history
        (.retired retirement) := by
  obtain ⟨hanswer, history, hh, ⟨rfl, hclosed⟩ | ⟨latest, -, -, -, hnext⟩⟩ := retire_answers h
  · exact ⟨history, hh, hclosed, hanswer⟩
  · refine ⟨{ history with retirement := some retirement }, ?_, rfl, hanswer⟩
    rw [hnext, SeriesRegistry.history, SortedMap.get?_modify, if_pos rfl]
    rw [show SortedMap.get? seriesId registry.series = some history from hh]
    rfl

theorem call_answered {call : RegistryCall} {answer : RegistryAnswer}
    (h : registry.call call = (.ok answer, next)) :
    ∃ history, next.history call.seriesId = some history ∧ call.Answered history answer := by
  cases call with
  | register seriesId binding payload evidence =>
    rw [call_register] at h
    obtain ⟨output, hresult, rfl⟩ := settle_ok h
    exact answered_register hresult
  | revise seriesId expectedRevision payload evidence =>
    rw [call_revise] at h
    obtain ⟨output, hresult, rfl⟩ := settle_ok h
    exact answered_revise hresult
  | retire seriesId expectedRevision evidence =>
    rw [call_retire] at h
    obtain ⟨output, hresult, rfl⟩ := settle_ok h
    exact answered_retire hresult

/-- A call whose answer the history still shows gives it again and changes nothing. -/
theorem call_of_answered {call : RegistryCall} {answer : RegistryAnswer} {history : SeriesHistory}
    (hh : registry.history call.seriesId = some history) (h : call.Answered history answer) :
    registry.call call = (.ok answer, registry) := by
  cases call with
  | register seriesId binding payload evidence =>
    cases answer with
    | retired retirement => cases h
    | declared declaration =>
      obtain ⟨hopen, hdeclared, hbinding, hpayload, hevidence⟩ := h
      have hresult : registry.register seriesId binding payload evidence =
          .ok (declaration, registry) := by
        unfold SeriesRegistry.register
        rw [show registry.history seriesId = some history from hh]
        dsimp only
        rw [then_ok, refuse_ok, not_not, hdeclared]
        exact ⟨hopen, if_pos ⟨rfl, hbinding, hpayload, hevidence⟩⟩
      rw [call_register, hresult]
      rfl
  | revise seriesId expectedRevision payload evidence =>
    cases answer with
    | retired retirement => cases h
    | declared declaration =>
      obtain ⟨hopen, hlatest, hreplay⟩ := h
      have hresult : registry.revise seriesId expectedRevision payload evidence =
          .ok (declaration, registry) := by
        unfold SeriesRegistry.revise
        rw [show registry.history seriesId = some history from hh]
        dsimp only
        rw [then_ok, refuse_ok, not_not, hlatest]
        exact ⟨hopen, if_pos hreplay⟩
      rw [call_revise, hresult]
      rfl
  | retire seriesId expectedRevision evidence =>
    cases answer with
    | declared declaration => cases h
    | retired retirement =>
      obtain ⟨hclosed, rfl⟩ := h
      have hresult : registry.retire seriesId expectedRevision evidence =
          .ok (⟨expectedRevision, evidence⟩, registry) := by
        unfold SeriesRegistry.retire
        rw [show registry.history seriesId = some history from hh]
        dsimp only
        rw [hclosed]
        exact if_pos ⟨rfl, rfl⟩
      rw [call_retire, hresult]
      rfl

/-- A call leaves the histories of all series but its own alone. -/
theorem history_call_of_ne {call : RegistryCall} {seriesId : SeriesId}
    (hne : call.seriesId ≠ seriesId) :
    (registry.call call).2.history seriesId = registry.history seriesId := by
  cases call with
  | register j binding payload evidence =>
    rw [call_register]
    cases hresult : registry.register j binding payload evidence with
    | error error => rfl
    | ok output =>
      obtain ⟨hnext, -⟩ | ⟨-, -, -, -, hnext⟩ := register_answers hresult
      · exact congrArg (fun r => r.history seriesId) hnext
      · change output.2.history seriesId = _
        rw [hnext, SeriesRegistry.history, SortedMap.get?_insert]
        exact if_neg (Ne.symm hne)
  | revise j expectedRevision payload evidence =>
    rw [call_revise]
    cases hresult : registry.revise j expectedRevision payload evidence with
    | error error => rfl
    | ok output =>
      obtain ⟨history, current, -, -, -, ⟨hnext, -⟩ | ⟨-, -, -, -, hnext⟩⟩ :=
        revise_answers hresult
      · exact congrArg (fun r => r.history seriesId) hnext
      · change output.2.history seriesId = _
        rw [hnext, SeriesRegistry.history, SortedMap.get?_modify]
        exact if_neg (Ne.symm hne)
  | retire j expectedRevision evidence =>
    rw [call_retire]
    cases hresult : registry.retire j expectedRevision evidence with
    | error error => rfl
    | ok output =>
      obtain ⟨-, history, -, ⟨hnext, -⟩ | ⟨latest, -, -, -, hnext⟩⟩ := retire_answers hresult
      · exact congrArg (fun r => r.history seriesId) hnext
      · change output.2.history seriesId = _
        rw [hnext, SeriesRegistry.history, SortedMap.get?_modify]
        exact if_neg (Ne.symm hne)

/-- No call of the list is accepted on the series. -/
def Quiet (seriesId : SeriesId) : SeriesRegistry → List RegistryCall → Prop
  | _, [] => True
  | registry, call :: rest =>
    (call.seriesId = seriesId → ∃ error, (registry.call call).1 = .error error) ∧
      Quiet seriesId (registry.call call).2 rest

theorem call_refused {call : RegistryCall} {error : ModelError}
    (h : (registry.call call).1 = .error error) : (registry.call call).2 = registry := by
  obtain ⟨_, hcall⟩ | ⟨_, _, hcall⟩ := call_cases registry call
  · rw [hcall]
  · rw [hcall] at h
    cases h

theorem Quiet.history {seriesId : SeriesId} {calls : List RegistryCall}
    (h : registry.Quiet seriesId calls) :
    (registry.after calls).history seriesId = registry.history seriesId := by
  induction calls generalizing registry with
  | nil => rfl
  | cons call rest ih =>
    obtain ⟨hcall, hrest⟩ := h
    rw [after_cons, ih hrest]
    by_cases hseries : call.seriesId = seriesId
    · obtain ⟨error, herror⟩ := hcall hseries
      rw [call_refused herror]
    · exact history_call_of_ne hseries

/-- A retired history never changes. -/
theorem history_call_retired {call : RegistryCall} {seriesId : SeriesId} {history : SeriesHistory}
    (hh : registry.history seriesId = some history) (hclosed : history.retirement ≠ none) :
    (registry.call call).2.history seriesId = some history := by
  by_cases hseries : call.seriesId = seriesId
  · obtain ⟨error, hcall⟩ | ⟨answer, next, hcall⟩ := call_cases registry call
    · rw [hcall]
      exact hh
    · suffices hsame : next = registry by
        rw [hcall, hsame]
        exact hh
      cases call with
      | register j binding payload evidence =>
        have hkey : j = seriesId := hseries
        subst hkey
        rw [call_register] at hcall
        obtain ⟨output, hresult, -⟩ := settle_ok hcall
        obtain ⟨hsame, -⟩ | ⟨hnone, -⟩ := register_answers hresult
        · exact hsame
        · rw [show registry.history j = none from hnone] at hh
          cases hh
      | revise j expectedRevision payload evidence =>
        have hkey : j = seriesId := hseries
        subst hkey
        rw [call_revise] at hcall
        obtain ⟨output, hresult, -⟩ := settle_ok hcall
        obtain ⟨other, current, hother, hopen, -⟩ := revise_answers hresult
        rw [show registry.history j = some other from hother] at hh
        cases hh
        exact absurd hopen hclosed
      | retire j expectedRevision evidence =>
        have hkey : j = seriesId := hseries
        subst hkey
        rw [call_retire] at hcall
        obtain ⟨output, hresult, -⟩ := settle_ok hcall
        obtain ⟨-, other, hother, ⟨hsame, -⟩ | ⟨latest, hopen, -⟩⟩ := retire_answers hresult
        · exact hsame
        · rw [show registry.history j = some other from hother] at hh
          cases hh
          exact absurd hopen hclosed
  · rw [history_call_of_ne hseries]
    exact hh

theorem history_after_retired {calls : List RegistryCall} {seriesId : SeriesId}
    {history : SeriesHistory} (hh : registry.history seriesId = some history)
    (hclosed : history.retirement ≠ none) :
    (registry.after calls).history seriesId = some history := by
  induction calls generalizing registry with
  | nil => exact hh
  | cons call rest ih => exact ih (history_call_retired hh hclosed)

end SeriesRegistry

/-- No call touches the store identity or the limits. -/
theorem SeriesRegistry.scope_call (registry : SeriesRegistry) (call : RegistryCall) :
    (registry.call call).2.storeId = registry.storeId ∧
      (registry.call call).2.limits = registry.limits := by
  refine SeriesRegistry.call_rule (motive := fun next =>
    next.storeId = registry.storeId ∧ next.limits = registry.limits) registry call ⟨rfl, rfl⟩
    ?_ ?_ ?_
  · intro next seriesId binding payload evidence declaration h
    obtain rfl | ⟨-, -, rfl⟩ := SeriesRegistry.register_cases h
    · exact ⟨rfl, rfl⟩
    · exact ⟨rfl, rfl⟩
  · intro next seriesId expectedRevision payload evidence declaration h
    obtain rfl | ⟨history, current, -, -, -, -, -, -, rfl⟩ := SeriesRegistry.revise_cases h
    · exact ⟨rfl, rfl⟩
    · exact ⟨rfl, rfl⟩
  · intro next seriesId expectedRevision evidence retirement h
    obtain rfl | ⟨history, latest, -, -, -, -, -, rfl⟩ := SeriesRegistry.retire_cases h
    · exact ⟨rfl, rfl⟩
    · exact ⟨rfl, rfl⟩

theorem SeriesRegistry.scope_after (registry : SeriesRegistry) (calls : List RegistryCall) :
    (registry.after calls).storeId = registry.storeId ∧
      (registry.after calls).limits = registry.limits := by
  induction calls generalizing registry with
  | nil => exact ⟨rfl, rfl⟩
  | cons call rest ih =>
    obtain ⟨hstore, hlimits⟩ := SeriesRegistry.scope_call registry call
    obtain ⟨hstore', hlimits'⟩ := ih (registry.call call).2
    exact ⟨hstore'.trans hstore, hlimits'.trans hlimits⟩

/-- A declaration is the only one of its history with its revision. -/
theorem SeriesHistory.Coherent.find {history : SeriesHistory} {storeId : StoreId} {count : Nat}
    (h : history.Coherent storeId count) {declaration : SeriesDeclaration}
    (hmem : declaration ∈ history.declarations) :
    history.declarations.find? (·.revision = declaration.revision) = some declaration := by
  obtain ⟨index, hindex⟩ := List.mem_iff_getElem?.mp hmem
  have hrevision := (h.placed index declaration hindex).revision
  cases hfind : history.declarations.find? (·.revision = declaration.revision) with
  | none =>
    have hnone := List.find?_eq_none.mp hfind declaration hmem
    simp at hnone
  | some other =>
    have hsame : other.revision = declaration.revision := by
      have hp := List.find?_some hfind
      simpa using hp
    obtain ⟨place, hplace⟩ := List.mem_iff_getElem?.mp (List.mem_of_find?_eq_some hfind)
    have hother := (h.placed place other hplace).revision
    rw [hsame] at hother
    have hequal : place = index := by omega
    rw [hequal, hindex] at hplace
    exact hplace.symm

theorem RegistryCall.Answered.mem {call : RegistryCall} {history : SeriesHistory}
    {declaration : SeriesDeclaration} (h : call.Answered history (.declared declaration)) :
    declaration ∈ history.declarations := by
  cases call with
  | register seriesId binding payload evidence =>
    obtain ⟨-, hdeclared, -⟩ := h
    rw [hdeclared]
    exact List.mem_cons_self
  | revise seriesId expectedRevision payload evidence =>
    obtain ⟨-, hlatest, -⟩ := h
    exact List.mem_of_getLast? hlatest
  | retire seriesId expectedRevision evidence => cases h

/-- An accepted declaration is resolved by its revision. -/
theorem SeriesRegistry.Reachable.resolve_answered {registry next : SeriesRegistry}
    (h : registry.Reachable) {call : RegistryCall} {declaration : SeriesDeclaration}
    (hcall : registry.call call = (.ok (.declared declaration), next)) :
    next.resolve call.seriesId declaration.revision = some declaration := by
  obtain ⟨history, hh, hanswer⟩ := SeriesRegistry.call_answered hcall
  have hnext : next.Reachable := by
    have hreach := h.call call
    rw [hcall] at hreach
    exact hreach
  obtain ⟨-, hcoherent⟩ := hnext.coherent.histories _ _ hh
  exact SeriesRegistry.resolve_eq_some.mpr ⟨history, hh, hcoherent.find hanswer.mem⟩

/-- Behind every list of calls, whatever each of them answered, the histories are sound; what is
declared, resolved and retired by then stays so behind all later calls, a refused call changes
nothing, an accepted one is repeated with the same answer as long as nothing else is accepted on
its series, and only the last declaration of a series that is not retired binds. -/
theorem registry_sound_after_calls (storeId : StoreId) (limits : SeriesRegistryLimits)
    (calls : List RegistryCall) :
    let registry := (SeriesRegistry.new storeId limits).after calls
    registry.storeId = storeId ∧ registry.limits = limits ∧ registry.Sound ∧
      (∀ later, (registry.after later).Extends registry) ∧
      (∀ call declaration later,
        (registry.call call).1 = .ok (.declared declaration) →
          ((registry.call call).2.after later).resolve call.seriesId declaration.revision =
            some declaration) ∧
      (∀ seriesId history later, registry.history seriesId = some history →
        history.retirement ≠ none → (registry.after later).history seriesId = some history) ∧
      (∀ call error, (registry.call call).1 = .error error → (registry.call call).2 = registry) ∧
      (∀ call answer later, (registry.call call).1 = .ok answer →
        (registry.call call).2.Quiet call.seriesId later →
          let repeated := (registry.call call).2.after later
          repeated.call call = (.ok answer, repeated)) ∧
      ∀ envelope bound, registry.bind envelope = .ok bound →
        ∃ history, registry.history envelope.series.seriesId = some history ∧
          history.retirement = none ∧ history.declarations.getLast? = some bound.declaration := by
  intro registry
  have hreach : registry.Reachable := (SeriesRegistry.Reachable.new storeId limits).after calls
  obtain ⟨hstore, hlimits⟩ := (SeriesRegistry.new storeId limits).scope_after calls
  refine ⟨hstore, hlimits, hreach.sound, registry.extends_after, ?_, ?_, ?_, ?_, ?_⟩
  · intro call declaration later hanswer
    have hcall : registry.call call = (.ok (.declared declaration), (registry.call call).2) :=
      Prod.ext hanswer rfl
    exact SeriesRegistry.extends_after _ later _ _ _ (hreach.resolve_answered hcall)
  · intro seriesId history later hh hclosed
    exact SeriesRegistry.history_after_retired hh hclosed
  · intro call error herror
    exact SeriesRegistry.call_refused herror
  · intro call answer later hanswer hquiet
    have hcall : registry.call call = (.ok answer, (registry.call call).2) :=
      Prod.ext hanswer rfl
    obtain ⟨history, hh, hshown⟩ := SeriesRegistry.call_answered hcall
    refine SeriesRegistry.call_of_answered ?_ hshown
    rw [hquiet.history]
    exact hh
  · intro envelope bound hbound
    obtain ⟨history, declaration, hh, hopen, hlatest, -, rfl⟩ := SeriesRegistry.bind_ok.mp hbound
    exact ⟨history, hh, hopen, hlatest⟩

end Historian
