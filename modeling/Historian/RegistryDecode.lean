import Historian.RegistryRestore
import Historian.JournalRoundTrip

namespace Historian

open Wire Checks

theorem reads_count {n : Nat} (h : n < 2 ^ 32) :
    Reads (encodeCount n) Cursor.u32 (⟨n, h⟩ : U32) := by
  have hread := codec_u32.reads_of (x := (⟨n, h⟩ : U32)) trivial
  have hcount : encodeCount n = encodeU32 (⟨n, h⟩ : U32) := by
    unfold encodeCount
    rw [dif_pos h]
  rw [hcount]
  exact hread

theorem declarationMatches_mirror (declaration : SeriesDeclaration) :
    declarationMatches declaration declaration.mirror = true := by
  simp [declarationMatches, SeriesDeclaration.mirror]

theorem reads_declarations {registry : SeriesRegistry} {history : SeriesHistory}
    (h : registry.Takes history) {done rest : List SeriesDeclaration}
    (hsplit : history.declarations = done ++ rest) :
    Reads (rest.forM encodeDeclaration)
      (decodeHistoryDeclarations registry.storeId history.seriesId rest.length done.isEmpty
        (registry.declared history done))
      (registry.declared history history.declarations) := by
  induction rest generalizing done with
  | nil =>
    rw [List.append_nil] at hsplit
    rw [hsplit]
    exact Reads.pure _
  | cons declaration rest ih =>
    have hmore : history.declarations = (done ++ [declaration]) ++ rest := by
      rw [hsplit, List.append_assoc]
      rfl
    have hrest := ih hmore
    have hempty : (done ++ [declaration]).isEmpty = false := by simp
    rw [hempty] at hrest
    obtain ⟨count, hsound⟩ := h.sound
    have hat : declaration.At registry.storeId history done.length := by
      apply hsound.placed
      rw [hsplit, List.getElem?_append_right (Nat.le_refl _), Nat.sub_self]
      rfl
    have hreplay := h.replay hsplit
    rw [← hat.binding] at hreplay
    have hmatches : declarationMatches declaration declaration.mirror = true :=
      declarationMatches_mirror declaration
    refine Reads.bind (codec_declaration.reads_of (x := declaration.mirror) trivial) ?_
    refine Reads.check (x := ()) ?_ ?_
    · rw [refuse_ok]
      exact not_or.mpr ⟨not_not.mpr hat.storeId, not_not.mpr hat.seriesId⟩
    refine Reads.check (x := (declaration, registry.declared history (done ++ [declaration])))
      (mapError_ok.mpr hreplay) ?_
    refine Reads.check (x := ()) ?_ hrest
    rw [refuse_ok, hmatches]
    simp

theorem reads_retirement {registry : SeriesRegistry} {history : SeriesHistory}
    (h : registry.Takes history) :
    Reads (match history.retirement with
      | some retirement => do
        encodeU8 1
        encodeU128 retirement.declarationRevision.value
        encodeDeclarationEvidence retirement.evidence
      | none => encodeU8 0)
      (decodeHistoryRetirement history.seriesId
        (registry.declared history history.declarations))
      (registry.withHistory history) := by
  unfold decodeHistoryRetirement
  cases hretired : history.retirement with
  | none =>
    obtain ⟨b, hb, hread⟩ := codec_flag.reads_of (x := false) trivial
    refine ⟨b, hb, ?_⟩
    intro rest
    rw [decode_bind_ok]
    refine ⟨false, rest, hread rest, ?_⟩
    have hrestored := restoreRetirement_of_takes h
    unfold restoreRetirement at hrestored
    rw [hretired] at hrestored
    rw [Except.ok.inj hrestored]
    rfl
  | some retirement =>
    refine Reads.bind (codec_flag.reads_of (x := true) trivial) ?_
    refine Reads.bind (codec_revision.reads_of (x := retirement.declarationRevision) trivial) ?_
    obtain ⟨b, hb, hread⟩ := codec_declarationEvidence.reads_of (x := retirement.evidence) trivial
    refine ⟨b, hb, ?_⟩
    intro rest
    rw [decode_bind_ok]
    refine ⟨retirement.evidence, rest, hread rest, ?_⟩
    rw [decode_bind_ok]
    exact ⟨(retirement, registry.withHistory history), rest,
      invalidModel_ok.mpr ⟨h.retire hretired, rfl⟩, rfl⟩

/-- The histories that a registry takes are read behind it, whatever key stands before them in
the registry. -/
theorem reads_histories {registry : SeriesRegistry} {histories : List SeriesHistory}
    (h : registry.TakesAll histories)
    (hmax : registry.limits.maxDeclarationRevisions.val ≤ maxPersistedRegistryRevisions)
    (previousSeries : Option SeriesId)
    (hprevious : ∀ previous ∈ previousSeries, previous ∈ registry.series.map (·.1)) :
    Reads (histories.forM encodeHistory)
      (decodeHistories registry.storeId registry.limits.maxDeclarationRevisions.val
        histories.length previousSeries registry.declarationRevisionCount registry)
      ((histories.foldl .withHistory registry).declarationRevisionCount,
        histories.foldl .withHistory registry) := by
  induction histories generalizing registry previousSeries with
  | nil => exact Reads.pure _
  | cons history rest ih =>
    have hhead := h.head
    have hcount := hhead.count_le
    obtain ⟨count, hsound⟩ := hhead.sound
    have hpositive : 0 < history.declarations.length := List.length_pos_iff.mpr hsound.nonempty
    have hsmall : history.declarations.length < 2 ^ 32 := by
      simp only [maxPersistedRegistryRevisions] at hmax
      omega
    have hrest := ih h.tail hmax (some history.seriesId) (by
      intro previous hprevious
      cases hprevious
      simp [SeriesRegistry.withHistory])
    change Reads (encodeHistory history >>= fun _ => rest.forM encodeHistory) _ _
    unfold encodeHistory decodeHistories
    simp only [bind_assoc]
    refine Reads.bind (codec_identity.reads_of (x := history.seriesId) trivial) ?_
    refine Reads.check (x := ()) ?_ ?_
    · rw [refuse_ok]
      rintro ⟨previous, hmem, hlt⟩
      have hbefore := (List.pairwise_append.mp h.ordered).2.2 previous (hprevious previous hmem)
        history.seriesId List.mem_cons_self
      rw [hlt] at hbefore
      cases hbefore
    refine Reads.bind (reads_count hsmall) ?_
    refine Reads.check (x := ()) ?_ ?_
    · rw [refuse_ok]
      dsimp only
      omega
    refine Reads.bind
      (reads_declarations hhead (List.nil_append history.declarations).symm) ?_
    exact Reads.bind (reads_retirement hhead) hrest

def registryLayout : List Nat := [8, 2, 2, 16, 8, 4, 4, 4, 4, 8, 4]

def registryFields (generation : U64) (snapshot : SeriesRegistrySnapshot) (payloadLen : Nat) :
    List Bytes :=
  [registryMagic, toBE 2 registryVersion, toBE 2 registryHeaderLen, snapshot.storeId.bytes,
    toBE 8 generation, toBE 4 snapshot.limits.maxSeries,
    toBE 4 snapshot.limits.maxDeclarationRevisions, toBE 4 snapshot.series.length,
    toBE 4 snapshot.declarationRevisionCount, toBE 8 payloadLen, zeros 4]

theorem registryFields_lengths (generation : U64) (snapshot : SeriesRegistrySnapshot)
    (payloadLen : Nat) :
    (registryFields generation snapshot payloadLen).map List.length = registryLayout := by
  have hstore := snapshot.storeId.length_eq
  simp [registryFields, registryLayout, registryMagic, hstore]

theorem length_registryHeader (generation : U64) (snapshot : SeriesRegistrySnapshot)
    (payloadLen : Nat) : (registryHeader generation snapshot payloadLen).length = 64 := by
  have hlengths := registryFields_lengths generation snapshot payloadLen
  change (registryFields generation snapshot payloadLen).flatten.length = 64
  rw [List.length_flatten, hlengths]
  rfl

/-- What is written for a snapshot that is encoded at all. -/
theorem encodeRegistrySnapshot_ok {generation : U64} {snapshot : SeriesRegistrySnapshot}
    {payload bytes : Bytes} (hpayload : Writes (encodeRegistryPayload snapshot) payload)
    (h : encodeRegistrySnapshot generation snapshot = .ok bytes) :
    validateSnapshotBounds snapshot = .ok () ∧ generation ≠ 0 ∧
      registryHeaderLen + payload.length + registryCrcLen ≤ maxRegistrySnapshotBytes ∧
      bytes = withChecksum (registryHeader generation snapshot payload.length ++ payload) := by
  unfold encodeRegistrySnapshot encodeRegistrySnapshotWithLimit at h
  rw [encodeBytes_of_writes hpayload] at h
  simp only [bind_ok, exists_unit, refuse_ok, pure_ok, mapError_ok, not_or, not_not, Nat.not_lt,
    Prod.exists] at h
  obtain ⟨hbounds, hgeneration, counter, -, ⟨htotal, -⟩, written, hwritten, hlength, rfl⟩ := h
  cases hwritten
  rw [← hlength] at htotal ⊢
  exact ⟨hbounds, hgeneration, htotal, rfl⟩

/-- The registry that was written is the one that is read, at its generation. -/
theorem decode_encodeRegistrySnapshot {registry : SeriesRegistry} (h : registry.Reachable)
    {generation : U64} {bytes : Bytes}
    (hencode : encodeRegistrySnapshot generation registry.snapshot = .ok bytes) :
    decodeRegistrySnapshot bytes =
      .ok ⟨⟨255, generation, Fin.ofNat _ bytes.length, crc32c bytes⟩, registry⟩ := by
  have hbounds : validateSnapshotBounds registry.snapshot = .ok () := by
    have hstart := hencode
    unfold encodeRegistrySnapshot encodeRegistrySnapshotWithLimit at hstart
    exact (then_ok.mp hstart).1
  have hlimits := hbounds
  unfold validateSnapshotBounds at hlimits
  rw [refuse_ok] at hlimits
  simp only [SeriesRegistry.snapshot, List.length_map, not_or, Nat.not_lt,
    maxPersistedRegistrySeries, maxPersistedRegistryRevisions] at hlimits
  obtain ⟨hmaxSeries, hmaxRevisions, hseries, hcount⟩ := hlimits
  obtain ⟨payload, hpayload, hread⟩ := reads_histories h.takesAll hmaxRevisions
    none (by simp)
  have hwrites : Writes (encodeRegistryPayload registry.snapshot) payload := hpayload
  obtain ⟨-, hgeneration, htotal, hbytes⟩ := encodeRegistrySnapshot_ok hwrites hencode
  simp only [registryHeaderLen, registryCrcLen, maxRegistrySnapshotBytes] at htotal
  obtain ⟨header, hdef⟩ :
      ∃ header, header = registryHeader generation registry.snapshot payload.length := ⟨_, rfl⟩
  have hheader : header.length = 64 := by
    rw [hdef, length_registryHeader]
  rw [← hdef] at hbytes
  have hlength : bytes.length = 64 + payload.length + 4 := by
    rw [hbytes, length_withChecksum, List.length_append, hheader]
  have hcut : cut header 0 registryLayout =
      registryFields generation registry.snapshot payload.length := by
    rw [hdef, ← registryFields_lengths generation registry.snapshot payload.length]
    exact cut_flatten _
  simp only [cut, registryLayout, Nat.reduceAdd, registryFields, List.cons.injEq,
    and_true] at hcut
  obtain ⟨hmagic, hversion, hheaderLen, hstore, hgen, hmaxS, hmaxR, hseriesLen, hrevisions,
    hpayloadLen, hzeros⟩ := hcut
  have hfield : ∀ start len field, start + len ≤ 64 → slice header start len = field →
      slice bytes start len = field := by
    intro start len field hle hfield
    rw [hbytes, slice_withChecksum (by rw [List.length_append]; omega), slice_left (by omega),
      hfield]
  have hbody : slice bytes registryHeaderLen payload.length = payload := by
    rw [hbytes, slice_withChecksum (by
      rw [List.length_append, registryHeaderLen]
      omega), slice_skip (by rw [hheader, registryHeaderLen]), hheader, registryHeaderLen,
      Nat.sub_self, slice_all rfl]
  have hcrc : crc32c (slice bytes 0 (bytes.length - 4)) = u32At bytes (bytes.length - 4) := by
    rw [hlength, Nat.add_sub_cancel, hbytes]
    exact withChecksum_agrees (by rw [List.length_append, hheader])
  have h32 : ∀ start (n : Nat), start + 4 ≤ 64 → n < 2 ^ 32 → slice header start 4 = toBE 4 n →
      (u32At bytes start).val = n := by
    intro start n hle hn hslice
    have hfin : toBE 4 n = toBE 4 (⟨n, hn⟩ : U32) := rfl
    rw [u32At_of_slice ((hfield start 4 _ hle hslice).trans hfin)]
  have h64 : (u64At bytes 52).val = payload.length := by
    have hfin : toBE 8 payload.length = toBE 8 (⟨payload.length, by omega⟩ : U64) := rfl
    rw [u64At_of_slice ((hfield 52 8 _ (by omega) hpayloadLen).trans hfin)]
  have hS := h32 36 registry.limits.maxSeries.val (by omega) (by omega) hmaxS
  have hR := h32 40 registry.limits.maxDeclarationRevisions.val (by omega) (by omega) hmaxR
  have hseriesCount : registry.snapshot.series.length = registry.series.length :=
    List.length_map _
  rw [hseriesCount] at hseriesLen
  have hN := h32 44 registry.series.length (by omega) (by omega) hseriesLen
  have hC := h32 48 registry.declarationRevisionCount (by omega) (by omega) hrevisions
  have hlimits : (⟨Fin.ofNat _ registry.limits.maxSeries.val,
      Fin.ofNat _ registry.limits.maxDeclarationRevisions.val⟩ : SeriesRegistryLimits) =
      registry.limits := by
    rw [Fin.ofNat_val_eq_self, Fin.ofNat_val_eq_self]
  have hhistories := hread []
  rw [List.append_nil, h.foldl_histories, List.length_map] at hhistories
  unfold decodeRegistrySnapshot
  simp only [bind_ok, exists_unit, refuse_ok, pure_ok, mapError_ok, not_not, not_or,
    Identity.fromBytes_ok, Nat.not_lt, Prod.exists]
  rw [hS, hR, hN, hC, h64, u64At_of_slice (hfield 28 8 _ (by omega) hgen), hbody, hlimits]
  refine ⟨⟨?_, ?_, hfield 0 8 _ (by omega) hmagic,
    u16At_of_slice (by decide) (hfield 8 2 _ (by omega) hversion),
    u16At_of_slice (by decide) (hfield 10 2 _ (by omega) hheaderLen),
    hfield 60 4 _ (by omega) hzeros⟩, hcrc, registry.storeId, hfield 12 16 _ (by omega) hstore,
    ⟨hgeneration, hmaxSeries, hmaxRevisions, hseries, hcount, ?_⟩,
    registry.declarationRevisionCount, registry, [], hhistories, rfl, rfl, bytes, hencode, rfl,
    rfl⟩
  · simp only [registryHeaderLen, registryCrcLen]
    omega
  · simp only [maxRegistrySnapshotBytes]
    omega
  · simp only [registryHeaderLen, registryCrcLen]
    omega

theorem encode_decodeRegistrySnapshot {bytes : Bytes} {decoded : DecodedRegistry}
    (h : decodeRegistrySnapshot bytes = .ok decoded) :
    encodeRegistrySnapshot decoded.reference.generation decoded.registry.snapshot =
      .ok bytes := by
  unfold decodeRegistrySnapshot at h
  simp only [bind_ok, exists_unit, refuse_ok, pure_ok, mapError_ok, not_not, Prod.exists] at h
  obtain ⟨-, -, storeId, -, -, revisions, registry, rest, -, -, -, canonical, hencode, rfl,
    rfl⟩ := h
  exact hencode

/-- A registry within the persisted bounds that any calls have made survives its snapshot, its
bytes are read as its generation and itself, and whatever bytes are accepted are the ones that
the decoded registry is written as. -/
theorem registry_round_trips (storeId : StoreId) (limits : SeriesRegistryLimits)
    (calls : List RegistryCall) (hseries : limits.maxSeries.val ≤ maxPersistedRegistrySeries)
    (hrevisions : limits.maxDeclarationRevisions.val ≤ maxPersistedRegistryRevisions) :
    let registry := (SeriesRegistry.new storeId limits).after calls
    restoreSnapshot registry.snapshot = .ok registry ∧
      (∀ generation bytes, encodeRegistrySnapshot generation registry.snapshot = .ok bytes →
        ∃ decoded, decodeRegistrySnapshot bytes = .ok decoded ∧
          decoded.reference.generation = generation ∧ decoded.registry = registry) ∧
      ∀ bytes decoded, decodeRegistrySnapshot bytes = .ok decoded →
        encodeRegistrySnapshot decoded.reference.generation decoded.registry.snapshot =
          .ok bytes := by
  intro registry
  have hreach : registry.Reachable := (SeriesRegistry.Reachable.new storeId limits).after calls
  have hlimits : registry.limits = limits :=
    ((SeriesRegistry.new storeId limits).scope_after calls).2
  have hpersisted : registry.Persisted := by
    constructor
    · rw [hlimits]
      exact hseries
    · rw [hlimits]
      exact hrevisions
  refine ⟨hreach.restoreSnapshot hpersisted, ?_, ?_⟩
  · intro generation bytes hencode
    exact ⟨_, decode_encodeRegistrySnapshot hreach hencode, rfl, rfl⟩
  · intro bytes decoded hdecode
    exact encode_decodeRegistrySnapshot hdecode

def unprojectedBinding : SeriesBinding := ⟨⟨sampleReference, none, sampleReference⟩⟩

/-- Two series are registered, the second of them is revised and the first one retired. -/
def sampleRegistryCalls : List RegistryCall :=
  [.register (sampleIdentity 2) unprojectedBinding sampleDeclarationPayload ⟨sampleTime, none⟩,
    .register (sampleIdentity 1) sampleBinding sampleDeclarationPayload ⟨sampleTime, none⟩,
    .revise (sampleIdentity 1) .first
      { sampleDeclarationPayload with quantity := .resolved sampleReference } ⟨sampleTime, none⟩,
    .retire (sampleIdentity 2) .first ⟨sampleTime, none⟩]

/-- The revised series and the retired one come back from the bytes of generation 7. -/
theorem registry_round_trips_sample :
    let registry := (SeriesRegistry.new (sampleIdentity 1) sampleLimits).after sampleRegistryCalls
    registry.series.map (fun entry =>
      (entry.1, entry.2.declarations.length, entry.2.retirement.isSome)) =
        [(sampleIdentity 1, 2, false), (sampleIdentity 2, 1, true)] ∧
      restoreSnapshot registry.snapshot = .ok registry ∧
      ∃ bytes decoded, encodeRegistrySnapshot 7 registry.snapshot = .ok bytes ∧
        decodeRegistrySnapshot bytes = .ok decoded ∧
        decoded.reference.generation = 7 ∧ decoded.registry = registry := by
  intro registry
  obtain ⟨hrestored, hdecodes, -⟩ := registry_round_trips (sampleIdentity 1) sampleLimits
    sampleRegistryCalls (by decide) (by decide)
  obtain ⟨bytes, hbytes⟩ : ∃ bytes, encodeRegistrySnapshot 7 registry.snapshot = .ok bytes :=
    exists_ok (by decide +kernel)
  obtain ⟨decoded, hdecoded, hgeneration, hregistry⟩ := hdecodes 7 bytes hbytes
  exact ⟨by decide +kernel, hrestored, bytes, decoded, hbytes, hdecoded, hgeneration, hregistry⟩

end Historian
