import Historian.RegistrySnapshot

namespace Historian

open Wire Checks

/-- Every history of a registry is stored under its own identity. -/
def SeriesRegistry.Keyed (registry : SeriesRegistry) : Prop :=
  ∀ entry ∈ registry.series, entry.2.seriesId = entry.1

theorem keyed_modify_series {seriesId : SeriesId} {f : SeriesHistory → SeriesHistory}
    {series : List (SeriesId × SeriesHistory)}
    (hf : ∀ history, (f history).seriesId = history.seriesId)
    (h : ∀ entry ∈ series, entry.2.seriesId = entry.1) :
    ∀ entry ∈ SortedMap.modify seriesId f series, entry.2.seriesId = entry.1 := by
  induction series with
  | nil => simp [SortedMap.modify]
  | cons first rest ih =>
    obtain ⟨key, value⟩ := first
    have hfirst : value.seriesId = key := h (key, value) List.mem_cons_self
    have hrest : ∀ entry ∈ rest, entry.2.seriesId = entry.1 := fun entry he =>
      h entry (List.mem_cons_of_mem _ he)
    simp only [SortedMap.modify]
    split
    next =>
      intro entry he
      rw [List.mem_cons] at he
      obtain rfl | he := he
      · exact (hf value).trans hfirst
      · exact hrest entry he
    next =>
      intro entry he
      rw [List.mem_cons] at he
      obtain rfl | he := he
      · exact hfirst
      · exact ih hrest entry he

theorem SeriesRegistry.Reachable.keyed {registry : SeriesRegistry} (h : registry.Reachable) :
    registry.Keyed := by
  induction h with
  | new storeId limits =>
    intro entry he
    cases he
  | register prior step ih =>
    obtain rfl | ⟨-, -, rfl⟩ := SeriesRegistry.register_cases step
    · exact ih
    · intro entry he
      obtain rfl | he := SortedMap.mem_insert he
      · rfl
      · exact ih entry he
  | revise prior step ih =>
    obtain rfl | ⟨history, current, -, -, -, -, -, -, rfl⟩ := SeriesRegistry.revise_cases step
    · exact ih
    · exact keyed_modify_series (fun _ => rfl) ih
  | retire prior step ih =>
    obtain rfl | ⟨history, latest, -, -, -, -, -, rfl⟩ := SeriesRegistry.retire_cases step
    · exact ih
    · exact keyed_modify_series (fun _ => rfl) ih

theorem keyed_series_injective {first second : List (SeriesId × SeriesHistory)}
    (hfirst : ∀ entry ∈ first, entry.2.seriesId = entry.1)
    (hsecond : ∀ entry ∈ second, entry.2.seriesId = entry.1)
    (h : first.map (·.2) = second.map (·.2)) : first = second := by
  induction first generalizing second with
  | nil =>
    rw [List.map_nil] at h
    exact (List.map_eq_nil_iff.mp h.symm).symm
  | cons entry rest ih =>
    cases second with
    | nil => cases h
    | cons other others =>
      simp only [List.map_cons, List.cons.injEq] at h
      have hkey : entry.1 = other.1 := by
        rw [← hfirst entry List.mem_cons_self, ← hsecond other List.mem_cons_self, h.1]
      have hrest := ih (fun e he => hfirst e (List.mem_cons_of_mem _ he))
        (fun e he => hsecond e (List.mem_cons_of_mem _ he)) h.2
      rw [hrest, Prod.ext hkey h.1]

/-- Registries that a caller can hold are equal when their snapshots are. -/
theorem SeriesRegistry.Reachable.eq_of_snapshot {first second : SeriesRegistry}
    (hfirst : first.Reachable) (hsecond : second.Reachable)
    (h : first.snapshot = second.snapshot) : first = second := by
  obtain ⟨store, limits, count, series⟩ := first
  obtain ⟨store', limits', count', series'⟩ := second
  simp only [SeriesRegistry.snapshot, SeriesRegistrySnapshot.mk.injEq] at h
  obtain ⟨rfl, rfl, rfl, hseries⟩ := h
  have heq : series = series' := keyed_series_injective hfirst.keyed hsecond.keyed hseries
  rw [heq]

theorem SeriesRegistry.Reachable.replayDeclaration {registry next : SeriesRegistry}
    {seriesId : SeriesId} {initial : Bool} {binding : SeriesBinding}
    {previousRevision : Option DeclarationRevision} {payload : SeriesDeclarationPayload}
    {evidence : DeclarationEvidence} {declaration : SeriesDeclaration}
    (hr : registry.Reachable)
    (h : Historian.replayDeclaration registry seriesId initial binding previousRevision payload
      evidence = .ok (declaration, next)) : next.Reachable := by
  unfold Historian.replayDeclaration at h
  split at h
  next => exact hr.register h
  next =>
    split at h
    next => exact hr.revise h
    next => cases h

theorem invalidModel_ok {α : Type} {r : Except ModelError α} {y : α} {bs rest : Bytes} :
    invalidModel r bs = .ok (y, rest) ↔ r = .ok y ∧ bs = rest := by
  unfold invalidModel
  rw [fromExcept_ok, mapError_ok]

theorem decodeHistoryDeclarations_reachable {storeId : StoreId} {seriesId : SeriesId}
    {count : Nat} {initial : Bool} {registry next : SeriesRegistry} {bs rest : Bytes}
    (hr : registry.Reachable)
    (h : decodeHistoryDeclarations storeId seriesId count initial registry bs =
      .ok (next, rest)) : next.Reachable := by
  induction count generalizing initial registry bs with
  | zero =>
    obtain ⟨rfl, -⟩ := decode_pure_ok.mp h
    exact hr
  | succ count ih =>
    simp only [decodeHistoryDeclarations, decode_bind_ok, fromExcept_ok, invalidModel_ok,
      Prod.exists] at h
    obtain ⟨declaration, mid, -, u, mid', -, actual, after, mid3, ⟨hreplay, -⟩, u', mid4, -,
      h⟩ := h
    exact ih (hr.replayDeclaration hreplay) h

theorem decodeHistoryRetirement_reachable {seriesId : SeriesId} {registry next : SeriesRegistry}
    {bs rest : Bytes} (hr : registry.Reachable)
    (h : decodeHistoryRetirement seriesId registry bs = .ok (next, rest)) : next.Reachable := by
  simp only [decodeHistoryRetirement, decode_bind_ok] at h
  obtain ⟨retired, mid, -, h⟩ := h
  split at h
  next =>
    simp only [decode_bind_ok, invalidModel_ok, decode_pure_ok, Prod.exists] at h
    obtain ⟨revision, mid', -, evidence, mid'', -, retirement, after, mid3, ⟨hretire, -⟩, rfl,
      -⟩ := h
    exact hr.retire hretire
  next =>
    obtain ⟨rfl, -⟩ := decode_pure_ok.mp h
    exact hr

theorem decodeHistories_reachable {storeId : StoreId} {maxRevisions count : Nat}
    {previousSeries : Option SeriesId} {decodedRevisions total : Nat}
    {registry next : SeriesRegistry} {bs rest : Bytes} (hr : registry.Reachable)
    (h : decodeHistories storeId maxRevisions count previousSeries decodedRevisions registry bs =
      .ok ((total, next), rest)) : next.Reachable := by
  induction count generalizing previousSeries decodedRevisions registry bs with
  | zero =>
    obtain ⟨hpair, -⟩ := decode_pure_ok.mp h
    cases hpair
    exact hr
  | succ count ih =>
    simp only [decodeHistories, decode_bind_ok, fromExcept_ok] at h
    obtain ⟨seriesId, mid, -, u, mid', -, declarationCount, mid3, -, u', mid4, -, declared, mid5,
      hdeclared, after, mid6, hafter, h⟩ := h
    exact ih (decodeHistoryRetirement_reachable
      (decodeHistoryDeclarations_reachable hr hdeclared) hafter) h

/-- What an accepted registry file says of the registry and of the reference to it. -/
theorem decodeRegistrySnapshotAtSlot_sound {bytes : Bytes} {slot : UInt8}
    {decoded : DecodedRegistry} (h : decodeRegistrySnapshotAtSlot bytes slot = .ok decoded) :
    slot < 3 ∧ decoded.reference.slot = slot ∧ decoded.reference.generation ≠ 0 ∧
      decoded.reference.length = Fin.ofNat _ bytes.length ∧
      decoded.reference.checksum = crc32c bytes ∧ decoded.registry.Reachable ∧
      bytes.length ≤ maxRegistrySnapshotBytes ∧ bytes ≠ [] := by
  unfold decodeRegistrySnapshotAtSlot decodeRegistrySnapshot at h
  simp only [bind_ok, exists_unit, refuse_ok, mapError_ok, pure_ok, not_or, not_not, Nat.not_lt,
    Prod.exists, UInt8.not_le] at h
  obtain ⟨hslot, found, ⟨⟨hshort, hmax, -⟩, -, store, -, ⟨hgeneration, -⟩, total, registry, rest,
    hhistories, -, -, canonical, -, -, rfl⟩, rfl⟩ := h
  refine ⟨hslot, rfl, hgeneration, rfl, rfl,
    decodeHistories_reachable (SeriesRegistry.Reachable.new _ _) hhistories, hmax, ?_⟩
  intro hnil
  simp [hnil, registryHeaderLen, registryCrcLen] at hshort

theorem restoreDeclarations_reachable {history : SeriesHistory} {initial : Bool}
    {registry next : SeriesRegistry} {declarations : List SeriesDeclaration}
    (hr : registry.Reachable)
    (h : restoreDeclarations history initial registry declarations = .ok next) :
    next.Reachable := by
  induction declarations generalizing initial registry with
  | nil =>
    cases h
    exact hr
  | cons declaration rest ih =>
    simp only [restoreDeclarations, bind_ok, exists_unit, mapError_ok, refuse_ok,
      Prod.exists] at h
    obtain ⟨actual, after, hreplay, -, h⟩ := h
    exact ih (hr.replayDeclaration hreplay) h

theorem restoreRetirement_reachable {history : SeriesHistory} {registry next : SeriesRegistry}
    (hr : registry.Reachable) (h : restoreRetirement history registry = .ok next) :
    next.Reachable := by
  unfold restoreRetirement at h
  split at h
  next =>
    cases h
    exact hr
  next =>
    simp only [bind_ok, exists_unit, mapError_ok, refuse_ok, pure_ok, Prod.exists] at h
    obtain ⟨actual, after, hretire, -, rfl⟩ := h
    exact hr.retire hretire

theorem restoreHistories_reachable {registry next : SeriesRegistry}
    {histories : List SeriesHistory} (hr : registry.Reachable)
    (h : restoreHistories registry histories = .ok next) : next.Reachable := by
  induction histories generalizing registry with
  | nil =>
    cases h
    exact hr
  | cons history rest ih =>
    simp only [restoreHistories, bind_ok] at h
    obtain ⟨declared, hdeclared, after, hafter, h⟩ := h
    exact ih (restoreRetirement_reachable (restoreDeclarations_reachable hr hdeclared) hafter) h

/-- A snapshot that is restored gives back the registry that it was taken of. -/
theorem restoreSnapshot_ok {registry restored : SeriesRegistry} (hr : registry.Reachable)
    (h : restoreSnapshot registry.snapshot = .ok restored) : restored = registry := by
  unfold restoreSnapshot at h
  simp only [bind_ok, exists_unit, refuse_ok, pure_ok, not_not] at h
  obtain ⟨-, found, hfound, hsnapshot, rfl⟩ := h
  have hreachable := restoreHistories_reachable (SeriesRegistry.Reachable.new _ _) hfound
  exact hreachable.eq_of_snapshot hr hsnapshot

/-- Every declaration that a registry resolves, a later registry resolves to the same. -/
def SeriesRegistry.Extends (later registry : SeriesRegistry) : Prop :=
  ∀ (seriesId : SeriesId) (revision : DeclarationRevision) (declaration : SeriesDeclaration),
    registry.resolve seriesId revision = some declaration →
      later.resolve seriesId revision = some declaration

theorem SeriesRegistry.resolve_eq_some {registry : SeriesRegistry} {seriesId : SeriesId}
    {revision : DeclarationRevision} {declaration : SeriesDeclaration} :
    registry.resolve seriesId revision = some declaration ↔ ∃ history,
      registry.history seriesId = some history ∧
        history.declarations.find? (·.revision = revision) = some declaration := by
  unfold SeriesRegistry.resolve
  exact Option.bind_eq_some_iff

theorem SeriesRegistry.extends_register {registry next : SeriesRegistry} {seriesId : SeriesId}
    {binding : SeriesBinding} {payload : SeriesDeclarationPayload} {evidence : DeclarationEvidence}
    {declaration : SeriesDeclaration}
    (h : registry.register seriesId binding payload evidence = .ok (declaration, next)) :
    next.Extends registry := by
  intro other revision found hfound
  obtain rfl | ⟨hnone, -, rfl⟩ := SeriesRegistry.register_cases h
  · exact hfound
  · rw [SeriesRegistry.resolve_eq_some] at hfound ⊢
    obtain ⟨history, hhistory, hfind⟩ := hfound
    refine ⟨history, ?_, hfind⟩
    rw [SeriesRegistry.history, SortedMap.get?_insert]
    split
    next heq =>
      subst heq
      rw [hnone] at hhistory
      cases hhistory
    next => exact hhistory

/-- A change of one history that keeps the declarations it already has. -/
theorem SeriesRegistry.extends_modify {registry : SeriesRegistry} {seriesId : SeriesId}
    {f : SeriesHistory → SeriesHistory} {count : Nat}
    (hf : ∀ history, ∃ more, (f history).declarations = history.declarations ++ more) :
    SeriesRegistry.Extends { registry with
      declarationRevisionCount := count
      series := SortedMap.modify seriesId f registry.series } registry := by
  intro other revision found hfound
  rw [SeriesRegistry.resolve_eq_some] at hfound ⊢
  obtain ⟨history, hhistory, hfind⟩ := hfound
  rw [SeriesRegistry.history, SortedMap.get?_modify]
  split
  next =>
    refine ⟨f history, ?_, ?_⟩
    · rw [show SortedMap.get? other registry.series = some history from hhistory]
      rfl
    · obtain ⟨more, hmore⟩ := hf history
      rw [hmore, List.find?_append, hfind]
      rfl
  next => exact ⟨history, hhistory, hfind⟩

theorem SeriesRegistry.extends_revise {registry next : SeriesRegistry} {seriesId : SeriesId}
    {expectedRevision : DeclarationRevision} {payload : SeriesDeclarationPayload}
    {evidence : DeclarationEvidence} {declaration : SeriesDeclaration}
    (h : registry.revise seriesId expectedRevision payload evidence = .ok (declaration, next)) :
    next.Extends registry := by
  obtain rfl | ⟨history, current, -, -, -, -, -, -, rfl⟩ := SeriesRegistry.revise_cases h
  · exact fun _ _ _ hfound => hfound
  · exact SeriesRegistry.extends_modify fun _ => ⟨_, rfl⟩

theorem SeriesRegistry.extends_retire {registry next : SeriesRegistry} {seriesId : SeriesId}
    {expectedRevision : DeclarationRevision} {evidence : DeclarationEvidence}
    {retirement : SeriesRetirement}
    (h : registry.retire seriesId expectedRevision evidence = .ok (retirement, next)) :
    next.Extends registry := by
  obtain rfl | ⟨history, latest, -, -, -, -, -, rfl⟩ := SeriesRegistry.retire_cases h
  · exact fun _ _ _ hfound => hfound
  · exact SeriesRegistry.extends_modify fun _ => ⟨[], (List.append_nil _).symm⟩

end Historian
