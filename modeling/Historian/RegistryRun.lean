import Historian.Registry

namespace Historian

open Checks

/-- The registries that a caller can hold: an empty one and what the accepted calls make of it. -/
inductive SeriesRegistry.Reachable : SeriesRegistry → Prop where
  | new (storeId : StoreId) (limits : SeriesRegistryLimits) : Reachable (.new storeId limits)
  | register {registry next : SeriesRegistry} {seriesId : SeriesId} {binding : SeriesBinding}
      {payload : SeriesDeclarationPayload} {evidence : DeclarationEvidence}
      {declaration : SeriesDeclaration} (prior : Reachable registry)
      (step : registry.register seriesId binding payload evidence = .ok (declaration, next)) :
      Reachable next
  | revise {registry next : SeriesRegistry} {seriesId : SeriesId}
      {expectedRevision : DeclarationRevision} {payload : SeriesDeclarationPayload}
      {evidence : DeclarationEvidence} {declaration : SeriesDeclaration}
      (prior : Reachable registry)
      (step : registry.revise seriesId expectedRevision payload evidence =
        .ok (declaration, next)) :
      Reachable next
  | retire {registry next : SeriesRegistry} {seriesId : SeriesId}
      {expectedRevision : DeclarationRevision} {evidence : DeclarationEvidence}
      {retirement : SeriesRetirement} (prior : Reachable registry)
      (step : registry.retire seriesId expectedRevision evidence = .ok (retirement, next)) :
      Reachable next

/-- A declaration in its place: the revision counts its position and names its predecessor. -/
structure SeriesDeclaration.At (declaration : SeriesDeclaration) (storeId : StoreId)
    (history : SeriesHistory) (index : Nat) : Prop where
  storeId : declaration.storeId = storeId
  seriesId : declaration.seriesId = history.seriesId
  binding : declaration.binding = history.binding
  revision : declaration.revision.value.val = index + 1
  previous : declaration.previousRevision = declaration.revision.previous?

structure SeriesHistory.Coherent (history : SeriesHistory) (storeId : StoreId) (count : Nat) :
    Prop where
  nonempty : history.declarations ≠ []
  length_le : history.declarations.length ≤ count
  placed : ∀ (index : Nat) (declaration : SeriesDeclaration),
    history.declarations[index]? = some declaration →
    declaration.At storeId history index

structure SeriesRegistry.Coherent (registry : SeriesRegistry) : Prop where
  count_le : registry.declarationRevisionCount ≤ registry.limits.maxDeclarationRevisions.val
  histories : ∀ (seriesId : SeriesId) (history : SeriesHistory),
    registry.history seriesId = some history → history.seriesId = seriesId ∧
      history.Coherent registry.storeId registry.declarationRevisionCount

theorem SeriesHistory.Coherent.mono {history : SeriesHistory} {storeId : StoreId}
    {count more : Nat} (h : history.Coherent storeId count) (hle : count ≤ more) :
    history.Coherent storeId more :=
  ⟨h.nonempty, Nat.le_trans h.length_le hle, h.placed⟩

theorem SeriesHistory.Coherent.latest {history : SeriesHistory} {storeId : StoreId} {count : Nat}
    (h : history.Coherent storeId count) {declaration : SeriesDeclaration}
    (hl : history.latestDeclaration = some declaration) :
    declaration.At storeId history (history.declarations.length - 1) := by
  apply h.placed
  rw [← hl, SeriesHistory.latestDeclaration, List.getLast?_eq_getElem?]

theorem SeriesRegistry.coherent_new (storeId : StoreId) (limits : SeriesRegistryLimits) :
    (SeriesRegistry.new storeId limits).Coherent := by
  constructor
  · exact Nat.zero_le _
  · intro seriesId history h
    cases h

theorem SeriesHistory.coherent_register (storeId : StoreId) (count : Nat) (seriesId : SeriesId)
    (binding : SeriesBinding) (payload : SeriesDeclarationPayload)
    (evidence : DeclarationEvidence) :
    SeriesHistory.Coherent ⟨seriesId, binding,
      [⟨storeId, seriesId, .first, none, binding, payload, evidence⟩], none⟩ storeId
      (count + 1) := by
  refine ⟨by simp, by simp, ?_⟩
  intro index declaration h
  rw [List.getElem?_singleton] at h
  split at h
  next hi =>
    cases h
    subst hi
    exact ⟨rfl, rfl, rfl, rfl, DeclarationRevision.first_previous.symm⟩
  next => cases h

/-- What an accepted registration answers and does: it repeats the only declaration of a series
that is not retired, or it opens a history under an unused key. -/
theorem SeriesRegistry.register_answers {registry next : SeriesRegistry} {seriesId : SeriesId}
    {binding : SeriesBinding} {payload : SeriesDeclarationPayload} {evidence : DeclarationEvidence}
    {declaration : SeriesDeclaration}
    (h : registry.register seriesId binding payload evidence = .ok (declaration, next)) :
    (next = registry ∧ ∃ history, registry.history seriesId = some history ∧
      history.retirement = none ∧ history.declarations = [declaration] ∧
      history.binding = binding ∧ declaration.payload = payload ∧
      declaration.evidence = evidence) ∨
      registry.history seriesId = none ∧ registry.series.length < registry.limits.maxSeries.val ∧
      registry.declarationRevisionCount < registry.limits.maxDeclarationRevisions.val ∧
      declaration = ⟨registry.storeId, seriesId, .first, none, binding, payload, evidence⟩ ∧
      next = { registry with
        declarationRevisionCount := registry.declarationRevisionCount + 1
        series := SortedMap.insert Identity.lt seriesId
          ⟨seriesId, binding, [declaration], none⟩ registry.series } := by
  unfold SeriesRegistry.register at h
  split at h
  next history hh =>
    rw [then_ok, refuse_ok, not_not] at h
    obtain ⟨hopen, h⟩ := h
    split at h
    next => cases h
    next initial later hdeclared =>
      split at h
      next hsame =>
        cases h
        obtain ⟨rfl, hbinding, hpayload, hevidence⟩ := hsame
        exact Or.inl ⟨rfl, history, hh, hopen, hdeclared, hbinding, hpayload, hevidence⟩
      next => cases h
  next hh =>
    simp only [then_ok, refuse_ok, pure_ok, Prod.mk.injEq, Nat.not_le] at h
    obtain ⟨hseries, hcount, rfl, rfl⟩ := h
    exact Or.inr ⟨hh, hseries, hcount, rfl, rfl⟩

/-- What an accepted registration does: nothing when it repeats the first declaration, and
otherwise it opens a history under an unused key. -/
theorem SeriesRegistry.register_cases {registry next : SeriesRegistry} {seriesId : SeriesId}
    {binding : SeriesBinding} {payload : SeriesDeclarationPayload} {evidence : DeclarationEvidence}
    {declaration : SeriesDeclaration}
    (h : registry.register seriesId binding payload evidence = .ok (declaration, next)) :
    next = registry ∨
      registry.history seriesId = none ∧
      registry.declarationRevisionCount < registry.limits.maxDeclarationRevisions.val ∧
      next = { registry with
        declarationRevisionCount := registry.declarationRevisionCount + 1
        series := SortedMap.insert Identity.lt seriesId
          ⟨seriesId, binding,
            [⟨registry.storeId, seriesId, .first, none, binding, payload, evidence⟩], none⟩
          registry.series } := by
  obtain ⟨rfl, -⟩ | ⟨hh, -, hcount, rfl, rfl⟩ := SeriesRegistry.register_answers h
  · exact Or.inl rfl
  · exact Or.inr ⟨hh, hcount, rfl⟩

/-- What an accepted revision answers and does: it repeats the latest declaration, or it appends
one with another payload to a history that is not retired. -/
theorem SeriesRegistry.revise_answers {registry next : SeriesRegistry} {seriesId : SeriesId}
    {expectedRevision : DeclarationRevision} {payload : SeriesDeclarationPayload}
    {evidence : DeclarationEvidence} {declaration : SeriesDeclaration}
    (h : registry.revise seriesId expectedRevision payload evidence = .ok (declaration, next)) :
    ∃ history current, registry.history seriesId = some history ∧ history.retirement = none ∧
      history.latestDeclaration = some current ∧
      ((next = registry ∧ declaration = current ∧
        current.previousRevision = some expectedRevision ∧ current.payload = payload ∧
        current.evidence = evidence) ∨
      current.revision = expectedRevision ∧ current.payload ≠ payload ∧
        registry.declarationRevisionCount < registry.limits.maxDeclarationRevisions.val ∧
        declaration = ⟨registry.storeId, seriesId, current.revision.next, some expectedRevision,
          history.binding, payload, evidence⟩ ∧
        next = { registry with
          declarationRevisionCount := registry.declarationRevisionCount + 1
          series := SortedMap.modify seriesId
            (fun h => { h with declarations := h.declarations ++ [declaration] })
            registry.series }) := by
  unfold SeriesRegistry.revise at h
  split at h
  next => cases h
  next history hh =>
    simp only [then_ok, refuse_ok, ne_eq, not_not] at h
    obtain ⟨hretired, h⟩ := h
    split at h
    next => cases h
    next current hcurrent =>
      refine ⟨history, current, hh, hretired, hcurrent, ?_⟩
      split at h
      next hreplay =>
        cases h
        exact Or.inl ⟨rfl, rfl, hreplay⟩
      next =>
        simp only [then_ok, refuse_ok, pure_ok, Prod.mk.injEq, Nat.not_le, not_not] at h
        obtain ⟨hrev, hchanged, hcount, rfl, rfl⟩ := h
        exact Or.inr ⟨hrev, hchanged, hcount, rfl, rfl⟩

/-- What an accepted revision does: nothing when it repeats the latest declaration, and
otherwise it appends one declaration to a history that is not retired. -/
theorem SeriesRegistry.revise_cases {registry next : SeriesRegistry} {seriesId : SeriesId}
    {expectedRevision : DeclarationRevision} {payload : SeriesDeclarationPayload}
    {evidence : DeclarationEvidence} {declaration : SeriesDeclaration}
    (h : registry.revise seriesId expectedRevision payload evidence = .ok (declaration, next)) :
    next = registry ∨
      ∃ history current, registry.history seriesId = some history ∧ history.retirement = none ∧
        history.latestDeclaration = some current ∧ current.revision = expectedRevision ∧
        registry.declarationRevisionCount < registry.limits.maxDeclarationRevisions.val ∧
        declaration = ⟨registry.storeId, seriesId, current.revision.next, some expectedRevision,
          history.binding, payload, evidence⟩ ∧
        next = { registry with
          declarationRevisionCount := registry.declarationRevisionCount + 1
          series := SortedMap.modify seriesId
            (fun h => { h with declarations := h.declarations ++ [declaration] })
            registry.series } := by
  obtain ⟨history, current, hh, hretired, hcurrent, ⟨rfl, -⟩ | ⟨hrev, -, hcount, hnext⟩⟩ :=
    SeriesRegistry.revise_answers h
  · exact Or.inl rfl
  · exact Or.inr ⟨history, current, hh, hretired, hcurrent, hrev, hcount, hnext⟩

/-- What an accepted retirement answers and does: it repeats one, or it closes a history at its
latest revision. -/
theorem SeriesRegistry.retire_answers {registry next : SeriesRegistry} {seriesId : SeriesId}
    {expectedRevision : DeclarationRevision} {evidence : DeclarationEvidence}
    {retirement : SeriesRetirement}
    (h : registry.retire seriesId expectedRevision evidence = .ok (retirement, next)) :
    retirement = ⟨expectedRevision, evidence⟩ ∧
      ∃ history, registry.history seriesId = some history ∧
        ((next = registry ∧ history.retirement = some retirement) ∨
        ∃ latest, history.retirement = none ∧ history.latestDeclaration = some latest ∧
          latest.revision = expectedRevision ∧
          next = { registry with
            series := SortedMap.modify seriesId
              (fun h => { h with retirement := some retirement }) registry.series }) := by
  unfold SeriesRegistry.retire at h
  split at h
  next => cases h
  next history hh =>
    split at h
    next closed hclosed =>
      split at h
      next hreplay =>
        cases h
        obtain ⟨rfl, rfl⟩ := hreplay
        exact ⟨rfl, history, hh, Or.inl ⟨rfl, hclosed⟩⟩
      next => cases h
    next hopen =>
      split at h
      next => cases h
      next latest hlatest =>
        simp only [then_ok, refuse_ok, pure_ok, Prod.mk.injEq, not_not] at h
        obtain ⟨hrev, rfl, rfl⟩ := h
        exact ⟨rfl, history, hh, Or.inr ⟨latest, hopen, hlatest, hrev, rfl⟩⟩

/-- What an accepted retirement does: nothing when it repeats one, and otherwise it closes a
history at its latest revision. -/
theorem SeriesRegistry.retire_cases {registry next : SeriesRegistry} {seriesId : SeriesId}
    {expectedRevision : DeclarationRevision} {evidence : DeclarationEvidence}
    {retirement : SeriesRetirement}
    (h : registry.retire seriesId expectedRevision evidence = .ok (retirement, next)) :
    next = registry ∨
      ∃ history latest, registry.history seriesId = some history ∧ history.retirement = none ∧
        history.latestDeclaration = some latest ∧ latest.revision = expectedRevision ∧
        retirement = ⟨expectedRevision, evidence⟩ ∧
        next = { registry with
          series := SortedMap.modify seriesId
            (fun h => { h with retirement := some retirement }) registry.series } := by
  obtain ⟨hanswer, history, hh, ⟨rfl, -⟩ | ⟨latest, hopen, hlatest, hrev, hnext⟩⟩ :=
    SeriesRegistry.retire_answers h
  · exact Or.inl rfl
  · exact Or.inr ⟨history, latest, hh, hopen, hlatest, hrev, hanswer, hnext⟩

theorem SeriesRegistry.Coherent.register {registry next : SeriesRegistry} {seriesId : SeriesId}
    {binding : SeriesBinding} {payload : SeriesDeclarationPayload} {evidence : DeclarationEvidence}
    {declaration : SeriesDeclaration} (hc : registry.Coherent)
    (h : registry.register seriesId binding payload evidence = .ok (declaration, next)) :
    next.Coherent := by
  obtain rfl | ⟨-, hcount, rfl⟩ := SeriesRegistry.register_cases h
  · exact hc
  · refine ⟨hcount, ?_⟩
    intro j history hj
    simp only [SeriesRegistry.history, SortedMap.get?_insert] at hj
    split at hj
    next heq =>
      cases hj
      exact ⟨heq.symm, SeriesHistory.coherent_register _ _ _ _ _ _⟩
    next =>
      obtain ⟨hkey, hhistory⟩ := hc.histories j history hj
      exact ⟨hkey, hhistory.mono (Nat.le_succ _)⟩

/-- A modified registry has the modified history under its key and every other one unchanged. -/
theorem SeriesRegistry.get?_modify_cases {registry : SeriesRegistry} {seriesId j : SeriesId}
    {f : SeriesHistory → SeriesHistory} {history other : SeriesHistory}
    (hh : registry.history seriesId = some history)
    (hj : SortedMap.get? j (SortedMap.modify seriesId f registry.series) = some other) :
    j = seriesId ∧ other = f history ∨ registry.history j = some other := by
  rw [SortedMap.get?_modify] at hj
  split at hj
  next heq =>
    subst heq
    rw [show SortedMap.get? j registry.series = some history from hh] at hj
    cases hj
    exact Or.inl ⟨rfl, rfl⟩
  next => exact Or.inr hj

/-- A history stays coherent when its latest revision is followed by the next one. -/
theorem SeriesHistory.Coherent.revise {history : SeriesHistory} {storeId : StoreId} {count : Nat}
    (hc : history.Coherent storeId count) (hcount : count < 2 ^ 64) {current : SeriesDeclaration}
    (hl : history.latestDeclaration = some current) (payload : SeriesDeclarationPayload)
    (evidence : DeclarationEvidence) :
    SeriesHistory.Coherent { history with
      declarations := history.declarations ++ [⟨storeId, history.seriesId, current.revision.next,
        some current.revision, history.binding, payload, evidence⟩] } storeId (count + 1) := by
  have hlen : 0 < history.declarations.length := List.length_pos_iff.mpr hc.nonempty
  have hbound := hc.length_le
  have hrev := (hc.latest hl).revision
  have hlt : current.revision.value.val + 1 < 2 ^ 128 := by omega
  refine ⟨by simp, by simp only [List.length_append, List.length_singleton]; omega, ?_⟩
  intro index declaration hd
  rw [List.getElem?_append] at hd
  split at hd
  next =>
    obtain ⟨h1, h2, h3, h4, h5⟩ := hc.placed index declaration hd
    exact ⟨h1, h2, h3, h4, h5⟩
  next hge =>
    rw [List.getElem?_singleton] at hd
    split at hd
    next hi =>
      cases hd
      refine ⟨rfl, rfl, rfl, ?_, (DeclarationRevision.next_previous hlt).symm⟩
      rw [DeclarationRevision.next_value hlt]
      omega
    next => cases hd

theorem SeriesRegistry.Coherent.revise {registry next : SeriesRegistry} {seriesId : SeriesId}
    {expectedRevision : DeclarationRevision} {payload : SeriesDeclarationPayload}
    {evidence : DeclarationEvidence} {declaration : SeriesDeclaration} (hc : registry.Coherent)
    (h : registry.revise seriesId expectedRevision payload evidence = .ok (declaration, next)) :
    next.Coherent := by
  obtain rfl | ⟨history, current, hh, -, hl, rfl, hcount, rfl, rfl⟩ := SeriesRegistry.revise_cases h
  · exact hc
  · have hlimit := registry.limits.maxDeclarationRevisions.isLt
    obtain ⟨rfl, hhistory⟩ := hc.histories seriesId history hh
    have hnew := hhistory.revise (by omega) hl payload evidence
    refine ⟨hcount, ?_⟩
    intro j other hj
    obtain ⟨rfl, rfl⟩ | hj := SeriesRegistry.get?_modify_cases hh hj
    · exact ⟨rfl, hnew⟩
    · obtain ⟨hkey, hhistory⟩ := hc.histories j other hj
      exact ⟨hkey, hhistory.mono (Nat.le_succ _)⟩

theorem SeriesRegistry.Coherent.retire {registry next : SeriesRegistry} {seriesId : SeriesId}
    {expectedRevision : DeclarationRevision} {evidence : DeclarationEvidence}
    {retirement : SeriesRetirement} (hc : registry.Coherent)
    (h : registry.retire seriesId expectedRevision evidence = .ok (retirement, next)) :
    next.Coherent := by
  obtain rfl | ⟨history, latest, hh, -, -, -, -, rfl⟩ := SeriesRegistry.retire_cases h
  · exact hc
  · refine ⟨hc.count_le, ?_⟩
    intro j other hj
    obtain ⟨rfl, rfl⟩ | hj := SeriesRegistry.get?_modify_cases hh hj
    · obtain ⟨hkey, hn, hle, hp⟩ := hc.histories j history hh
      refine ⟨hkey, hn, hle, ?_⟩
      intro index declaration hd
      obtain ⟨h1, h2, h3, h4, h5⟩ := hp index declaration hd
      exact ⟨h1, h2, h3, h4, h5⟩
    · exact hc.histories j other hj

/-- Every registry that a caller can hold is coherent. -/
theorem SeriesRegistry.Reachable.coherent {registry : SeriesRegistry}
    (h : registry.Reachable) : registry.Coherent := by
  induction h with
  | new storeId limits => exact SeriesRegistry.coherent_new storeId limits
  | register prior step ih => exact ih.register step
  | revise prior step ih => exact ih.revise step
  | retire prior step ih => exact ih.retire step

end Historian
