import Historian.RegistrySound

namespace Historian

open Wire Checks

def SeriesHistory.declaring (history : SeriesHistory) (declarations : List SeriesDeclaration) :
    SeriesHistory :=
  { history with declarations := declarations, retirement := none }

/-- The registry with one more history behind all of its own. -/
def SeriesRegistry.withHistory (registry : SeriesRegistry) (history : SeriesHistory) :
    SeriesRegistry :=
  { registry with
    declarationRevisionCount :=
      registry.declarationRevisionCount + history.declarations.length
    series := registry.series ++ [(history.seriesId, history)] }

/-- What the replay of a history has made of the registry behind its first declarations. -/
def SeriesRegistry.declared (registry : SeriesRegistry) (history : SeriesHistory) :
    List SeriesDeclaration → SeriesRegistry
  | [] => registry
  | first :: rest => registry.withHistory (history.declaring (first :: rest))

/-- There is room for the history in the registry, behind everything that it holds. -/
structure SeriesRegistry.Takes (registry : SeriesRegistry) (history : SeriesHistory) : Prop where
  below : ∀ entry ∈ registry.series, Identity.lt entry.1 history.seriesId = true
  sound : ∃ count, history.Sound registry.storeId count
  count_le : registry.declarationRevisionCount + history.declarations.length ≤
    registry.limits.maxDeclarationRevisions.val
  series_lt : registry.series.length < registry.limits.maxSeries.val

theorem SeriesDeclaration.At.eq_first {declaration : SeriesDeclaration} {storeId : StoreId}
    {history : SeriesHistory} (h : declaration.At storeId history 0) :
    declaration = ⟨storeId, history.seriesId, .first, none, history.binding, declaration.payload,
      declaration.evidence⟩ := by
  obtain ⟨store, series, revision, previous, binding, payload, evidence⟩ := declaration
  obtain ⟨rfl, rfl, rfl, hrevision, hprevious⟩ := h
  have hfirst : revision = .first := DeclarationRevision.ext_value hrevision
  dsimp only at hprevious
  rw [hprevious, hfirst, DeclarationRevision.first_previous]

/-- A declaration behind another one carries the next revision and names that one's. -/
theorem SeriesDeclaration.At.eq_next {current declaration : SeriesDeclaration} {storeId : StoreId}
    {history : SeriesHistory} {index : Nat} (hcurrent : current.At storeId history index)
    (h : declaration.At storeId history (index + 1)) :
    declaration = ⟨storeId, history.seriesId, current.revision.next, some current.revision,
      history.binding, declaration.payload, declaration.evidence⟩ := by
  obtain ⟨store, series, revision, previous, binding, payload, evidence⟩ := declaration
  obtain ⟨rfl, rfl, rfl, hrevision, hprevious⟩ := h
  have hvalue := hcurrent.revision
  have hlt : current.revision.value.val + 1 < 2 ^ 128 := by
    have hbound := revision.value.isLt
    dsimp only at hrevision
    omega
  have hnext : revision = current.revision.next := by
    apply DeclarationRevision.ext_value
    rw [DeclarationRevision.next_value hlt]
    dsimp only at hrevision
    omega
  dsimp only at hprevious
  rw [hprevious, hnext, DeclarationRevision.next_previous hlt]

namespace SeriesRegistry

variable {registry : SeriesRegistry} {history : SeriesHistory}

theorem Takes.ne (h : registry.Takes history) :
    ∀ entry ∈ registry.series, entry.1 ≠ history.seriesId := by
  intro entry hentry heq
  have hlt := h.below entry hentry
  rw [heq, Identity.lt_irrefl] at hlt
  cases hlt

theorem Takes.history_declared (h : registry.Takes history) (first : SeriesDeclaration)
    (rest : List SeriesDeclaration) :
    (registry.declared history (first :: rest)).history history.seriesId =
      some (history.declaring (first :: rest)) :=
  SortedMap.get?_last h.ne

theorem Takes.register (h : registry.Takes history) {declaration : SeriesDeclaration}
    (hat : declaration.At registry.storeId history 0)
    (hroom : registry.declarationRevisionCount < registry.limits.maxDeclarationRevisions.val) :
    registry.register history.seriesId history.binding declaration.payload declaration.evidence =
      .ok (declaration, registry.declared history [declaration]) := by
  have hnone : registry.history history.seriesId = none := SortedMap.get?_eq_none h.ne
  have hlast : SortedMap.insert Identity.lt history.seriesId (history.declaring [declaration])
      registry.series =
      registry.series ++ [(history.seriesId, history.declaring [declaration])] :=
    @SortedMap.insert_last _ _ _ Identity.lt Identity.lt_trans Identity.lt_irrefl _ _ _ h.below
  unfold SeriesRegistry.register
  rw [hnone]
  simp only [then_ok, refuse_ok, pure_ok, Nat.not_le, Prod.mk.injEq]
  refine ⟨h.series_lt, hroom, hat.eq_first.symm, ?_⟩
  rw [← hat.eq_first]
  change { registry with
    declarationRevisionCount := registry.declarationRevisionCount + 1
    series := SortedMap.insert Identity.lt history.seriesId (history.declaring [declaration])
      registry.series } = _
  rw [hlast]
  rfl

theorem Takes.revise (h : registry.Takes history) {first current declaration : SeriesDeclaration}
    {rest : List SeriesDeclaration} {index : Nat}
    (hlatest : (first :: rest).getLast? = some current)
    (hcurrent : current.At registry.storeId history index)
    (hat : declaration.At registry.storeId history (index + 1))
    (hchanged : current.payload ≠ declaration.payload)
    (hroom : registry.declarationRevisionCount + (first :: rest).length <
      registry.limits.maxDeclarationRevisions.val) :
    (registry.declared history (first :: rest)).revise history.seriesId current.revision
        declaration.payload declaration.evidence =
      .ok (declaration, registry.declared history (first :: rest ++ [declaration])) := by
  have hnext := hcurrent.eq_next hat
  have hmodify : SortedMap.modify history.seriesId
      (fun h => { h with declarations := h.declarations ++ [declaration] })
      (registry.series ++ [(history.seriesId, history.declaring (first :: rest))]) =
      registry.series ++ [(history.seriesId,
        history.declaring (first :: rest ++ [declaration]))] :=
    SortedMap.modify_last h.ne
  unfold SeriesRegistry.revise
  rw [h.history_declared]
  dsimp only
  rw [then_ok, refuse_ok, not_not]
  refine ⟨rfl, ?_⟩
  rw [show (history.declaring (first :: rest)).latestDeclaration = some current from hlatest]
  dsimp only
  rw [if_neg fun hreplay => hchanged hreplay.2.1]
  simp only [then_ok, refuse_ok, pure_ok, Nat.not_le, not_not, Prod.mk.injEq]
  refine ⟨trivial, hchanged, hroom, hnext.symm, ?_⟩
  change { registry with
    declarationRevisionCount := registry.declarationRevisionCount + (first :: rest).length + 1
    series := SortedMap.modify history.seriesId
      (fun h => { h with declarations := h.declarations ++ [(⟨registry.storeId,
        history.seriesId, current.revision.next, some current.revision, history.binding,
        declaration.payload, declaration.evidence⟩ : SeriesDeclaration)] })
      (registry.series ++ [(history.seriesId, history.declaring (first :: rest))]) } = _
  rw [← hnext, hmodify]
  change _ = registry.withHistory (history.declaring (first :: (rest ++ [declaration])))
  unfold withHistory
  simp only [SeriesHistory.declaring, List.length_cons, List.length_append, List.length_nil,
    List.cons_append, mk.injEq, and_true, true_and]
  omega

theorem Takes.retire (h : registry.Takes history) {retirement : SeriesRetirement}
    (hretired : history.retirement = some retirement) :
    (registry.declared history history.declarations).retire history.seriesId
        retirement.declarationRevision retirement.evidence =
      .ok (retirement, registry.withHistory history) := by
  obtain ⟨count, hsound⟩ := h.sound
  obtain ⟨latest, hlatest, hrevision⟩ := hsound.retired retirement hretired
  cases hdeclared : history.declarations with
  | nil => exact absurd hdeclared hsound.nonempty
  | cons first rest =>
    have hmodify : SortedMap.modify history.seriesId
        (fun h => { h with retirement := some retirement })
        (registry.series ++ [(history.seriesId, history.declaring (first :: rest))]) =
        registry.series ++ [(history.seriesId,
          { history.declaring (first :: rest) with retirement := some retirement })] :=
      SortedMap.modify_last h.ne
    unfold SeriesRegistry.retire
    rw [h.history_declared]
    dsimp only
    rw [show (history.declaring (first :: rest)).retirement = none from rfl]
    dsimp only
    have hlast : (history.declaring (first :: rest)).latestDeclaration = some latest := by
      unfold SeriesHistory.latestDeclaration at hlatest
      rw [hdeclared] at hlatest
      exact hlatest
    rw [hlast]
    simp only [then_ok, refuse_ok, pure_ok, not_not, Prod.mk.injEq]
    refine ⟨hrevision, trivial, ?_⟩
    change { registry with
      declarationRevisionCount := registry.declarationRevisionCount + (first :: rest).length
      series := SortedMap.modify history.seriesId
        (fun h => { h with retirement := some retirement })
        (registry.series ++ [(history.seriesId, history.declaring (first :: rest))]) } = _
    rw [hmodify, ← hdeclared, ← hretired]
    rfl

/-- Every declaration of a history that a registry takes is replayed to itself. -/
theorem Takes.replay (h : registry.Takes history) {done rest : List SeriesDeclaration}
    {declaration : SeriesDeclaration}
    (hsplit : history.declarations = done ++ declaration :: rest) :
    replayDeclaration (registry.declared history done) history.seriesId done.isEmpty
        history.binding declaration.previousRevision declaration.payload declaration.evidence =
      .ok (declaration, registry.declared history (done ++ [declaration])) := by
  obtain ⟨count, hsound⟩ := h.sound
  have hroom := h.count_le
  have hlength := congrArg List.length hsplit
  simp only [List.length_append, List.length_cons] at hlength
  have hat : declaration.At registry.storeId history done.length := by
    apply hsound.placed
    rw [hsplit, List.getElem?_append_right (Nat.le_refl _), Nat.sub_self]
    rfl
  cases done with
  | nil => exact h.register hat (by simp only [List.length_nil] at hlength; omega)
  | cons first more =>
    obtain ⟨current, hcurrent⟩ : ∃ current, (first :: more).getLast? = some current :=
      ⟨_, List.getLast?_eq_some_getLast (List.cons_ne_nil first more)⟩
    have hplace : history.declarations[more.length]? = some current := by
      rw [hsplit, List.getElem?_append_left (by simp)]
      rw [List.getLast?_eq_getElem?] at hcurrent
      exact hcurrent
    have hcurrentAt := hsound.placed more.length current hplace
    have hnext := hcurrentAt.eq_next hat
    have hchanged : current.payload ≠ declaration.payload := by
      have hchanges := hsound.changes
      rw [hsplit] at hchanges
      exact (List.isChain_append.mp hchanges).2.2 current hcurrent declaration rfl
    have hprevious : declaration.previousRevision = some current.revision := by
      rw [hnext]
    have hrevise := h.revise hcurrent hcurrentAt hat hchanged (by
      simp only [List.length_cons] at hlength ⊢
      omega)
    unfold replayDeclaration
    rw [hprevious]
    exact hrevise

end SeriesRegistry

theorem restoreDeclarations_of_takes {registry : SeriesRegistry} {history : SeriesHistory}
    (h : registry.Takes history) {done rest : List SeriesDeclaration}
    (hsplit : history.declarations = done ++ rest) :
    restoreDeclarations history done.isEmpty (registry.declared history done) rest =
      .ok (registry.declared history history.declarations) := by
  induction rest generalizing done with
  | nil =>
    rw [List.append_nil] at hsplit
    rw [hsplit]
    rfl
  | cons declaration rest ih =>
    have hmore : history.declarations = (done ++ [declaration]) ++ rest := by
      rw [hsplit, List.append_assoc]
      rfl
    have hrest := ih hmore
    have hempty : (done ++ [declaration]).isEmpty = false := by simp
    rw [hempty] at hrest
    unfold restoreDeclarations
    rw [h.replay hsplit]
    simp only [bind_ok, exists_unit, mapError_ok, refuse_ok, Prod.exists]
    exact ⟨declaration, _, rfl, not_not.mpr rfl, hrest⟩

theorem restoreRetirement_of_takes {registry : SeriesRegistry} {history : SeriesHistory}
    (h : registry.Takes history) :
    restoreRetirement history (registry.declared history history.declarations) =
      .ok (registry.withHistory history) := by
  unfold restoreRetirement
  split
  next hopen =>
    obtain ⟨count, hsound⟩ := h.sound
    cases hdeclared : history.declarations with
    | nil => exact absurd hdeclared hsound.nonempty
    | cons first rest =>
      have hsame : history.declaring (first :: rest) = history := by
        unfold SeriesHistory.declaring
        rw [← hdeclared, ← hopen]
      exact congrArg (fun h => Except.ok (registry.withHistory h)) hsame
  next retirement hretired =>
    rw [h.retire hretired]
    simp only [bind_ok, exists_unit, mapError_ok, refuse_ok, pure_ok, Prod.exists]
    exact ⟨retirement, _, rfl, not_not.mpr rfl, rfl⟩

/-- The registry takes the histories one behind the other. -/
structure SeriesRegistry.TakesAll (registry : SeriesRegistry) (histories : List SeriesHistory) :
    Prop where
  ordered : (registry.series.map (·.1) ++ histories.map (·.seriesId)).Pairwise
    fun first second => Identity.lt first second = true
  sound : ∀ history ∈ histories, ∃ count, history.Sound registry.storeId count
  count_le : registry.declarationRevisionCount +
    (histories.map fun history => history.declarations.length).sum ≤
      registry.limits.maxDeclarationRevisions.val
  series_le : registry.series.length + histories.length ≤ registry.limits.maxSeries.val

namespace SeriesRegistry

variable {registry : SeriesRegistry} {history : SeriesHistory} {histories : List SeriesHistory}

theorem TakesAll.head (h : registry.TakesAll (history :: histories)) : registry.Takes history := by
  refine ⟨?_, h.sound history List.mem_cons_self, ?_, ?_⟩
  · intro entry hentry
    have hbefore := (List.pairwise_append.mp h.ordered).2.2
    exact hbefore entry.1 (List.mem_map_of_mem hentry) history.seriesId List.mem_cons_self
  · have hcount := h.count_le
    simp only [List.map_cons, List.sum_cons] at hcount
    omega
  · have hseries := h.series_le
    simp only [List.length_cons] at hseries
    omega

theorem TakesAll.tail (h : registry.TakesAll (history :: histories)) :
    (registry.withHistory history).TakesAll histories := by
  refine ⟨?_, ?_, ?_, ?_⟩
  · have hordered := h.ordered
    simp only [withHistory, List.map_append, List.map_cons, List.map_nil, List.append_assoc,
      List.singleton_append] at hordered ⊢
    exact hordered
  · intro other hother
    exact h.sound other (List.mem_cons_of_mem _ hother)
  · have hcount := h.count_le
    simp only [List.map_cons, List.sum_cons] at hcount
    simp only [withHistory]
    omega
  · have hseries := h.series_le
    simp only [List.length_cons] at hseries
    simp only [withHistory, List.length_append, List.length_cons, List.length_nil]
    omega

end SeriesRegistry

theorem restoreHistories_of_takesAll {registry : SeriesRegistry} {histories : List SeriesHistory}
    (h : registry.TakesAll histories) :
    restoreHistories registry histories = .ok (histories.foldl .withHistory registry) := by
  induction histories generalizing registry with
  | nil => rfl
  | cons history rest ih =>
    have hhead := h.head
    have hdeclared := restoreDeclarations_of_takes hhead (List.nil_append history.declarations).symm
    unfold restoreHistories
    simp only [bind_ok]
    exact ⟨_, hdeclared, _, restoreRetirement_of_takes hhead, ih h.tail⟩

namespace SeriesRegistry

variable {registry : SeriesRegistry}

theorem foldl_withHistory (histories : List SeriesHistory) :
    histories.foldl .withHistory registry = { registry with
      declarationRevisionCount := registry.declarationRevisionCount +
        (histories.map fun history => history.declarations.length).sum
      series := registry.series ++ histories.map fun history => (history.seriesId, history) } := by
  induction histories generalizing registry with
  | nil => simp
  | cons history rest ih =>
    rw [List.foldl_cons, ih]
    simp only [withHistory, List.map_cons, List.sum_cons, List.append_assoc,
      List.singleton_append, Nat.add_assoc]

/-- The histories of a registry, one behind the other, make the registry. -/
theorem Reachable.foldl_histories (h : registry.Reachable) :
    (registry.series.map (·.2)).foldl .withHistory
      (SeriesRegistry.new registry.storeId registry.limits) =
      registry := by
  have hkeyed : (registry.series.map (·.2)).map (fun history => (history.seriesId, history)) =
      registry.series := by
    rw [List.map_map]
    refine (List.map_congr_left ?_).trans (List.map_id _)
    intro entry hentry
    exact Prod.ext (h.keyed entry hentry) rfl
  have hcounted := h.sound.counted
  rw [foldl_withHistory, hkeyed]
  simp only [SeriesRegistry.new, List.map_map, Nat.zero_add, List.nil_append]
  rw [show (registry.series.map ((fun history : SeriesHistory => history.declarations.length) ∘
    fun entry => entry.2)).sum = registry.declarationRevisionCount from hcounted.symm]

theorem Reachable.takesAll (h : registry.Reachable) :
    (SeriesRegistry.new registry.storeId registry.limits).TakesAll (registry.series.map (·.2)) := by
  have hsound := h.sound
  refine ⟨?_, ?_, ?_, ?_⟩
  · have hkeys : (registry.series.map (·.2)).map (·.seriesId) = registry.series.map (·.1) := by
      rw [List.map_map]
      exact List.map_congr_left h.keyed
    rw [hkeys]
    exact SortedMap.ordered_iff_keys.mp hsound.ordered
  · intro history hhistory
    obtain ⟨entry, hentry, rfl⟩ := List.mem_map.mp hhistory
    have hfound : registry.history entry.1 = some entry.2 :=
      @SortedMap.Ordered.get?_of_mem _ _ _ Identity.lt Identity.lt_irrefl _ _ _ hsound.ordered
        hentry
    exact ⟨_, (hsound.histories entry.1 entry.2 hfound).2⟩
  · have hcount := hsound.count_le
    rw [hsound.counted] at hcount
    simpa [SeriesRegistry.new, Function.comp_def] using hcount
  · have hseries := hsound.series_le
    simpa [SeriesRegistry.new] using hseries

/-- The limits of a registry that is kept on disk. -/
structure Persisted (registry : SeriesRegistry) : Prop where
  series : registry.limits.maxSeries.val ≤ maxPersistedRegistrySeries
  revisions : registry.limits.maxDeclarationRevisions.val ≤ maxPersistedRegistryRevisions

theorem Reachable.validateSnapshotBounds (h : registry.Reachable) (hp : registry.Persisted) :
    validateSnapshotBounds registry.snapshot = .ok () := by
  have hseries := hp.series
  have hrevisions := hp.revisions
  have hlength := h.sound.series_le
  have hcount := h.sound.count_le
  unfold Historian.validateSnapshotBounds
  rw [refuse_ok]
  simp only [snapshot, List.length_map]
  omega

theorem Reachable.restoreSnapshot (h : registry.Reachable) (hp : registry.Persisted) :
    restoreSnapshot registry.snapshot = .ok registry := by
  have hrestored := restoreHistories_of_takesAll h.takesAll
  rw [h.foldl_histories] at hrestored
  unfold Historian.restoreSnapshot
  simp only [Checks.bind_ok, exists_unit, refuse_ok, pure_ok, not_not]
  exact ⟨h.validateSnapshotBounds hp, registry, hrestored, rfl, rfl⟩

end SeriesRegistry

end Historian
