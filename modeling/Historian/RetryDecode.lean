import Historian.RetryBatch
import Historian.JournalRoundTrip

namespace Historian

open Wire Checks

/-- A reference that has a spelling in a retry file: a catalog slot with a positive generation
and length. -/
def GenerationCatalogReference.Named (reference : GenerationCatalogReference) : Prop :=
  reference.slot < 3 ∧ reference.generation ≠ 0 ∧ reference.length ≠ 0

instance (reference : GenerationCatalogReference) : Decidable reference.Named :=
  inferInstanceAs (Decidable (_ ∧ _ ∧ _))

/-- The fields that stand for an optional reference. -/
structure CommitCatalogFields where
  flag : UInt8
  slot : UInt8
  generation : U64
  length : U64
  checksum : U32
  deriving DecidableEq

def commitCatalogFields : Option GenerationCatalogReference → CommitCatalogFields
  | some catalog => ⟨1, catalog.slot, catalog.generation, catalog.length, catalog.checksum⟩
  | none => ⟨0, 0, 0, 0, 0⟩

theorem commitCatalogOfFields_ok {fields : CommitCatalogFields}
    {catalog : Option GenerationCatalogReference} :
    commitCatalogOfFields fields.flag fields.slot fields.generation fields.length
        fields.checksum = .ok catalog ↔
      (∀ reference ∈ catalog, reference.Named) ∧ fields = commitCatalogFields catalog := by
  obtain ⟨flag, slot, generation, length, checksum⟩ := fields
  unfold commitCatalogOfFields
  constructor
  · intro h
    dsimp only at h
    split at h
    next hzero =>
      cases h
      obtain ⟨rfl, rfl, rfl, rfl, rfl⟩ := hzero
      exact ⟨by simp, rfl⟩
    next =>
      split at h
      next hnamed =>
        cases h
        obtain ⟨rfl, hnamed⟩ := hnamed
        refine ⟨?_, rfl⟩
        intro reference hreference
        cases hreference
        exact hnamed
      next => cases h
  · intro h
    obtain ⟨hnamed, hfields⟩ := h
    cases catalog with
    | none =>
      cases hfields
      rfl
    | some reference =>
      cases hfields
      dsimp only
      rw [if_neg (by simp), if_pos ⟨rfl, hnamed reference rfl⟩]

theorem encodeCommitCatalog_eq (catalog : Option GenerationCatalogReference) :
    encodeCommitCatalog catalog = (do
      encodeU8 (commitCatalogFields catalog).flag
      encodeU8 (commitCatalogFields catalog).slot
      put (zeros 6)
      encodeU64 (commitCatalogFields catalog).generation
      encodeU64 (commitCatalogFields catalog).length
      encodeU32 (commitCatalogFields catalog).checksum
      put (zeros 12)) := by
  cases catalog with
  | some reference => rfl
  | none =>
    funext out
    change (put (zeros 40) : Enc Unit) out = .ok ((),
      ((((((out.put [0]).put [0]).put (zeros 6)).put (toBE 8 0)).put (toBE 8 0)).put
        (toBE 4 0)).put (zeros 12))
    simp only [Encoder.put_put]
    rfl

theorem codec_reserved (n : Nat) :
    Codec (fun _ : Unit => True) (fun _ => (put (zeros n) : Enc Unit)) (decodeReserved n) := by
  apply Codec.checked (fun _ => zeros n) (codec_take JournalV1Error.truncated n)
    (fun _ _ => length_zeros n)
  intro bytes _ done
  rw [refuse_ok, not_not, true_and]

theorem codec_commitCatalog :
    Codec (fun catalog => ∀ reference ∈ catalog, reference.Named) encodeCommitCatalog
      decodeCommitCatalog := by
  have step : Codec (fun catalog : Option GenerationCatalogReference =>
      ∀ reference ∈ catalog, reference.Named) (fun catalog => do
      encodeU8 (commitCatalogFields catalog).flag
      encodeU8 (commitCatalogFields catalog).slot
      put (zeros 6)
      encodeU64 (commitCatalogFields catalog).generation
      encodeU64 (commitCatalogFields catalog).length
      encodeU32 (commitCatalogFields catalog).checksum
      put (zeros 12)) decodeCommitCatalog := by
    apply Codec.field (fun catalog => (commitCatalogFields catalog).flag) codec_u8
      (fun _ _ => trivial)
    intro flag _
    apply Codec.field (fun catalog => (commitCatalogFields catalog).slot) codec_u8
      (fun _ _ => trivial)
    intro slot _
    apply Codec.field (fun _ => ()) (codec_reserved 6) (fun _ _ => trivial)
    intro _ _
    apply Codec.field (fun catalog => (commitCatalogFields catalog).generation) codec_u64
      (fun _ _ => trivial)
    intro generation _
    apply Codec.field (fun catalog => (commitCatalogFields catalog).length) codec_u64
      (fun _ _ => trivial)
    intro length _
    apply Codec.field (fun catalog => (commitCatalogFields catalog).checksum) codec_u32
      (fun _ _ => trivial)
    intro checksum _
    apply Codec.checked (fun _ => ()) (codec_reserved 12) (fun _ _ => trivial)
    intro _ _ catalog
    have hfields := @commitCatalogOfFields_ok ⟨flag, slot, generation, length, checksum⟩ catalog
    rw [hfields]
    constructor
    · intro h
      obtain ⟨hnamed, heq⟩ := h
      rw [← heq]
      exact ⟨⟨⟨⟨⟨⟨⟨hnamed, rfl⟩, rfl⟩, rfl⟩, rfl⟩, rfl⟩, rfl⟩, rfl⟩
    · intro h
      obtain ⟨⟨⟨⟨⟨⟨⟨hnamed, rfl⟩, rfl⟩, -⟩, rfl⟩, rfl⟩, rfl⟩, -⟩ := h
      exact ⟨hnamed, rfl⟩
  exact step.congr (fun _ => Iff.rfl) (fun catalog _ => encodeCommitCatalog_eq catalog)

/-- An outcome that has a spelling in a retry file of the store. -/
structure RetryReplayOutcome.Named (outcome : RetryReplayOutcome) (storeId : StoreId) : Prop where
  storeId : outcome.committed.durableCutoff.journal.storeId = storeId
  catalog : ∀ reference ∈ outcome.committed.catalog, reference.Named

theorem codec_replayOutcome (storeId : StoreId) :
    Codec (fun outcome : RetryReplayOutcome => outcome.Named storeId) encodeReplayOutcome
      (decodeReplayOutcome storeId) := by
  apply Codec.field RetryReplayOutcome.qualification codec_retry (fun _ _ => trivial)
  intro qualification _
  apply Codec.field RetryReplayOutcome.appendSequence codec_u64 (fun _ _ => trivial)
  intro appendSequence _
  apply Codec.field RetryReplayOutcome.endOffset codec_u64 (fun _ _ => trivial)
  intro endOffset _
  apply Codec.field (fun outcome : RetryReplayOutcome => outcome.committed.manifestGeneration)
    codec_u64 (fun _ _ => trivial)
  intro manifestGeneration _
  apply Codec.field (fun outcome : RetryReplayOutcome => outcome.committed.registrySlot)
    codec_u8 (fun _ _ => trivial)
  intro registrySlot _
  apply Codec.field (fun _ => ()) (codec_reserved 7) (fun _ _ => trivial)
  intro _ _
  apply Codec.field (fun outcome : RetryReplayOutcome => outcome.committed.registryGeneration)
    codec_u64 (fun _ _ => trivial)
  intro registryGeneration _
  apply Codec.field
    (fun outcome : RetryReplayOutcome => outcome.committed.durableCutoff.journal.generation)
    codec_u64 (fun _ _ => trivial)
  intro journalGeneration _
  apply Codec.field
    (fun outcome : RetryReplayOutcome => outcome.committed.durableCutoff.checkpointGeneration)
    codec_u64 (fun _ _ => trivial)
  intro checkpointGeneration _
  apply Codec.field
    (fun outcome : RetryReplayOutcome => outcome.committed.durableCutoff.appendSequence)
    codec_u64 (fun _ _ => trivial)
  intro cutoffSequence _
  apply Codec.field
    (fun outcome : RetryReplayOutcome => outcome.committed.durableCutoff.endOffset)
    codec_u64 (fun _ _ => trivial)
  intro cutoffEnd _
  apply Codec.field (fun outcome : RetryReplayOutcome => outcome.committed.retryState.slot)
    codec_u8 (fun _ _ => trivial)
  intro retrySlot _
  apply Codec.field (fun _ => ()) (codec_reserved 7) (fun _ _ => trivial)
  intro _ _
  apply Codec.field (fun outcome : RetryReplayOutcome => outcome.committed.retryState.generation)
    codec_u64 (fun _ _ => trivial)
  intro retryGeneration _
  apply Codec.field (fun outcome : RetryReplayOutcome => outcome.committed.sequenceFloor)
    codec_u64 (fun _ _ => trivial)
  intro sequenceFloor _
  apply Codec.map (fun outcome : RetryReplayOutcome => outcome.committed.catalog)
    codec_commitCatalog (fun _ h => h.1.1.1.1.1.1.1.1.1.1.1.1.1.1.1.catalog)
  intro catalog hnamed outcome
  constructor
  · intro h
    cases h
    simp only [and_true]
    exact ⟨rfl, hnamed⟩
  · intro h
    obtain ⟨⟨⟨⟨⟨⟨⟨⟨⟨⟨⟨⟨⟨⟨⟨⟨houtcome, rfl⟩, rfl⟩, rfl⟩, rfl⟩, rfl⟩, -⟩, rfl⟩, rfl⟩, rfl⟩, rfl⟩,
      rfl⟩, rfl⟩, -⟩, rfl⟩, rfl⟩, rfl⟩ := h
    rw [← houtcome.storeId]

theorem codec_guardEntry : Codec (fun _ => True) encodeGuardEntry decodeGuardEntry := by
  apply Codec.field RetryGuardEntry.qualification codec_retry (fun _ _ => trivial)
  intro qualification _
  apply Codec.map RetryGuardEntry.appendSequence codec_u64 (fun _ _ => trivial)
  rintro appendSequence _ ⟨_, _⟩
  simp

def retryFields (snapshot : RetryStateSnapshot) (generation : U64) (payloadLen : Nat) :
    List Bytes :=
  [retryMagic, toBE 2 retryVersion, toBE 2 retryHeaderLen, snapshot.storeId.bytes,
    toBE 8 generation, toBE 4 snapshot.options.replayCapacity,
    toBE 4 snapshot.options.guardCapacity, toBE 4 snapshot.replay.length,
    toBE 4 snapshot.guard.length, toBE 8 payloadLen, zeros 4]

def retryLayout : List Nat := [8, 2, 2, 16, 8, 4, 4, 4, 4, 8, 4]

theorem retryFields_lengths (snapshot : RetryStateSnapshot) (generation : U64)
    (payloadLen : Nat) :
    (retryFields snapshot generation payloadLen).map List.length = retryLayout := by
  have hstore := snapshot.storeId.length_eq
  simp [retryFields, retryLayout, retryMagic, hstore]

theorem length_retryHeader (snapshot : RetryStateSnapshot) (generation : U64)
    (payloadLen : Nat) :
    (retryHeader snapshot generation payloadLen).length = retryHeaderLen := by
  have hlengths := retryFields_lengths snapshot generation payloadLen
  change (retryFields snapshot generation payloadLen).flatten.length = retryHeaderLen
  rw [List.length_flatten, hlengths]
  rfl

/-- The snapshot has a spelling: every catalog reference in it is one that a store can name. -/
def RetryStateSnapshot.Named (snapshot : RetryStateSnapshot) : Prop :=
  ∀ outcome ∈ snapshot.replay, ∀ reference ∈ outcome.committed.catalog, reference.Named

theorem reads_retryPayload {snapshot : RetryStateSnapshot}
    (hstate : validateState snapshot = .ok ()) (hnamed : snapshot.Named) :
    ∃ payload, Writes (encodeRetryPayload snapshot) payload ∧ ∃ guards,
      times (decodeReplayOutcome snapshot.storeId) snapshot.replay.length payload =
        .ok (snapshot.replay, guards) ∧
      times decodeGuardEntry snapshot.guard.length guards = .ok (snapshot.guard, []) := by
  have hreplay := hstate
  unfold validateState at hreplay
  simp only [bind_ok, exists_unit] at hreplay
  obtain ⟨-, previous, -, hreplay, -⟩ := hreplay
  have hvalid := (validateReplay_ok.mp hreplay).1
  obtain ⟨outcomes, houtcomes, hread⟩ :=
    ((codec_replayOutcome snapshot.storeId).list snapshot.replay.length).reads_of
      (x := snapshot.replay) ⟨rfl, fun outcome houtcome =>
        ⟨(hvalid outcome houtcome).store, hnamed outcome houtcome⟩⟩
  obtain ⟨guards, hguards, hreadGuards⟩ :=
    (codec_guardEntry.list snapshot.guard.length).reads_of (x := snapshot.guard)
      ⟨rfl, fun _ _ => trivial⟩
  refine ⟨outcomes ++ guards, houtcomes.bind hguards, guards, hread guards, ?_⟩
  have hend := hreadGuards []
  rwa [List.append_nil] at hend

/-- The snapshot that was written is the one that is read, from its slot. -/
theorem decode_encodeRetryState {snapshot : RetryStateSnapshot} {reference : RetryStateReference}
    {bytes : Bytes} (hreference : snapshot.reference = some reference) (hnamed : snapshot.Named)
    (hencode : encodeRetryState snapshot = .ok bytes) :
    decodeRetryStateAtSlot bytes reference.slot snapshot.storeId snapshot.options =
      .ok (⟨reference, Fin.ofNat _ bytes.length, crc32c bytes⟩, snapshot) := by
  have hstate : validateState snapshot = .ok () := by
    have hstart := hencode
    unfold encodeRetryState encodeRetryStateWithLimit at hstart
    exact (then_ok.mp hstart).1
  obtain ⟨hreplays, hguards, -⟩ := validateState_bounds hstate
  have hbounds := hstate
  unfold validateState at hbounds
  simp only [then_ok, refuse_ok, not_or, Nat.not_lt, hreference, Option.mem_some_iff,
    exists_eq_left', UInt8.not_le] at hbounds
  obtain ⟨⟨-, -, hentries, hslot, hgeneration⟩, -⟩ := hbounds
  have hcapacity := snapshot.options.bounded
  have hmost : maxPersistedRetryEntries = 4096 := rfl
  obtain ⟨payload, hwrites, guards, hreadReplay, hreadGuard⟩ := reads_retryPayload hstate hnamed
  obtain ⟨htotal, hbytes⟩ : retryHeaderLen + payload.length + retryCrcLen ≤ maxRetryStateBytes ∧
      bytes = withChecksum (retryHeader snapshot reference.generation payload.length ++
        payload) := by
    have hstart := hencode
    unfold encodeRetryState encodeRetryStateWithLimit at hstart
    rw [hreference, encodeBytes_of_writes hwrites] at hstart
    simp only [bind_ok, exists_unit, refuse_ok, pure_ok, mapError_ok, not_or, not_not, Nat.not_lt,
      Prod.exists] at hstart
    obtain ⟨-, counter, -, ⟨htotal, -⟩, written, hwritten, hlength, rfl⟩ := hstart
    cases hwritten
    rw [← hlength] at htotal ⊢
    exact ⟨htotal, rfl⟩
  simp only [retryHeaderLen, retryCrcLen, maxRetryStateBytes] at htotal
  have hlength : bytes.length = 64 + payload.length + 4 := by
    rw [hbytes, length_withChecksum, List.length_append, length_retryHeader, retryHeaderLen]
  have hcut : cut bytes 0 retryLayout =
      retryFields snapshot reference.generation payload.length := by
    rw [hbytes, ← retryFields_lengths snapshot reference.generation payload.length]
    exact cut_withChecksum _ _
  simp only [cut, retryLayout, Nat.reduceAdd, retryFields, List.cons.injEq, and_true] at hcut
  obtain ⟨hmagic, hversion, hheaderLen, hstore, hgen, hreplayCap, hguardCap, hreplayLen,
    hguardLen, hpayloadLen, hzeros⟩ := hcut
  have hbody : slice bytes retryHeaderLen payload.length = payload := by
    rw [hbytes]
    exact slice_payload (length_retryHeader _ _ _)
  have hcrc : crc32c (slice bytes 0 (bytes.length - 4)) = u32At bytes (bytes.length - 4) := by
    rw [hlength, Nat.add_sub_cancel, hbytes]
    exact withChecksum_agrees (by rw [List.length_append, length_retryHeader, retryHeaderLen])
  have h32 : ∀ start (n : Nat), n < 2 ^ 32 → slice bytes start 4 = toBE 4 n →
      (u32At bytes start).val = n := by
    intro start n hn hslice
    have hfin : toBE 4 n = toBE 4 (⟨n, hn⟩ : U32) := rfl
    rw [u32At_of_slice (hslice.trans hfin)]
  have h64 : (u64At bytes 52).val = payload.length := by
    have hfin : toBE 8 payload.length = toBE 8 (⟨payload.length, by omega⟩ : U64) := rfl
    rw [u64At_of_slice (hpayloadLen.trans hfin)]
  have hoptions : RetryPersistenceOptions.new snapshot.options.replayCapacity
      snapshot.options.guardCapacity = some snapshot.options := by
    unfold RetryPersistenceOptions.new
    rw [dif_pos ⟨snapshot.options.replay_pos, snapshot.options.guard_pos, hcapacity⟩]
  have hsame : (⟨snapshot.storeId, snapshot.options, some reference, snapshot.replay,
      snapshot.guard⟩ : RetryStateSnapshot) = snapshot := by
    rw [← hreference]
  unfold decodeRetryStateAtSlot
  simp only [bind_ok, exists_unit, refuse_ok, mapError_ok, not_not, not_or,
    Identity.fromBytes_ok, Nat.not_lt, UInt8.not_le]
  rw [h32 36 _ (by omega) hreplayCap, h32 40 _ (by omega) hguardCap, hoptions]
  simp only [bind_ok, exists_unit, refuse_ok, pure_ok, mapError_ok, not_not, not_or, Nat.not_lt,
    Prod.exists]
  rw [h32 44 _ (by omega) hreplayLen, h32 48 _ (by omega) hguardLen, h64,
    u64At_of_slice hgen, hbody]
  refine ⟨⟨hslot, ?_, ?_, hmagic, u16At_of_slice (by decide) hheaderLen, hzeros⟩,
    u16At_of_slice (by decide) hversion, hcrc, snapshot.storeId, hstore, rfl, trivial,
    ⟨hgeneration, hreplays, hguards, hentries, ?_⟩, snapshot.replay, guards, hreadReplay,
    snapshot.guard, [], hreadGuard, rfl, ?_, bytes, ?_, rfl, ?_⟩
  · simp only [retryHeaderLen, retryCrcLen]
    omega
  · simp only [maxRetryStateBytes]
    omega
  · simp only [retryHeaderLen, retryCrcLen]
    omega
  · rw [hsame]
    exact hstate
  · rw [hsame]
    exact hencode
  · rw [hsame]

/-- What an accepted file holds has a spelling and is written back to the same bytes. -/
theorem encode_decodeRetryState {bytes : Bytes} {slot : UInt8} {storeId : StoreId}
    {options : RetryPersistenceOptions} {reference : RetryArtifactReference}
    {snapshot : RetryStateSnapshot}
    (h : decodeRetryStateAtSlot bytes slot storeId options = .ok (reference, snapshot)) :
    snapshot.Named ∧ encodeRetryState snapshot = .ok bytes := by
  unfold decodeRetryStateAtSlot at h
  simp only [bind_ok, exists_unit, refuse_ok, mapError_ok, not_or, not_not, Nat.not_lt] at h
  obtain ⟨-, -, -, store, -, rfl, h⟩ := h
  split at h
  next => cases h
  next found hoptions =>
    simp only [bind_ok, exists_unit, refuse_ok, mapError_ok, pure_ok, not_or, not_not,
      Prod.exists, Prod.mk.injEq] at h
    obtain ⟨-, -, replay, rest, hreplay, guard, rest', -, -, -, canonical, hencode, rfl, -,
      rfl⟩ := h
    obtain ⟨⟨-, hnamed⟩, -⟩ := (((codec_replayOutcome store).list _).reads _ _ _).mp hreplay
    refine ⟨?_, hencode⟩
    intro outcome houtcome
    exact (hnamed outcome houtcome).catalog

/-- A snapshot with a durable reference is read back from its bytes exactly if every catalog
reference in it is one that a store can name, and what is read from any accepted bytes is written
as these bytes. -/
theorem retry_state_round_trips (snapshot : RetryStateSnapshot) (reference : RetryStateReference)
    (hreference : snapshot.reference = some reference) :
    (∀ bytes, encodeRetryState snapshot = .ok bytes →
      (decodeRetryStateAtSlot bytes reference.slot snapshot.storeId snapshot.options =
        .ok (⟨reference, Fin.ofNat _ bytes.length, crc32c bytes⟩, snapshot) ↔ snapshot.Named)) ∧
    ∀ bytes slot storeId options artifact decoded,
      decodeRetryStateAtSlot bytes slot storeId options = .ok (artifact, decoded) →
        encodeRetryState decoded = .ok bytes := by
  refine ⟨?_, ?_⟩
  · intro bytes hencode
    constructor
    · intro hdecode
      exact (encode_decodeRetryState hdecode).1
    · intro hnamed
      exact decode_encodeRetryState hreference hnamed hencode
  · intro bytes slot storeId options artifact decoded hdecode
    exact (encode_decodeRetryState hdecode).2

section Samples

/-- A snapshot of a store in its second generation whose only outcome was committed under the
given catalog reference. -/
def sampleSealedTiers (catalog : GenerationCatalogReference) : RetryStateSnapshot :=
  ⟨sampleIdentity 1, sampleTierOptions, some ⟨0, 3⟩,
    [⟨sampleRetry 'a' firstKey_printable, 2, 200, ⟨4, 1, 0, ⟨⟨sampleIdentity 1, 2⟩, 2, 2, 200⟩,
      ⟨0, 3⟩, 1, some catalog⟩⟩], []⟩

/-- A catalog slot that no store has passes the validator, but not the decoder. -/
theorem retry_state_lost :
    let snapshot := sampleSealedTiers ⟨3, 1, 132, 7⟩
    validateState snapshot = .ok () ∧
      ∃ bytes, encodeRetryState snapshot = .ok bytes ∧
        decodeRetryStateAtSlot bytes 0 snapshot.storeId snapshot.options = .error .invalid := by
  have hstate : validateState (sampleSealedTiers ⟨3, 1, 132, 7⟩) = .ok () := by decide +kernel
  obtain ⟨bytes, hbytes⟩ := encodeRetryState_of_valid hstate rfl
  have hrefused : ((encodeRetryState (sampleSealedTiers ⟨3, 1, 132, 7⟩)).toOption.any fun bytes =>
      decide (decodeRetryStateAtSlot bytes 0 (sampleIdentity 1) sampleTierOptions =
        .error .invalid)) = true := by
    decide +kernel
  rw [hbytes] at hrefused
  exact ⟨hstate, bytes, hbytes, of_decide_eq_true hrefused⟩

theorem retry_state_round_trips_sample :
    ∃ bytes, encodeRetryState (sampleSealedTiers ⟨0, 1, 132, 7⟩) = .ok bytes ∧
      decodeRetryStateAtSlot bytes 0 (sampleIdentity 1) sampleTierOptions =
        .ok (⟨⟨0, 3⟩, Fin.ofNat _ bytes.length, crc32c bytes⟩,
          sampleSealedTiers ⟨0, 1, 132, 7⟩) := by
  have hstate : validateState (sampleSealedTiers ⟨0, 1, 132, 7⟩) = .ok () := by decide +kernel
  obtain ⟨bytes, hbytes⟩ := encodeRetryState_of_valid hstate rfl
  have hnamed : (sampleSealedTiers ⟨0, 1, 132, 7⟩).Named := by
    intro outcome houtcome reference hfound
    cases List.mem_singleton.mp houtcome
    cases hfound
    decide
  have h := (retry_state_round_trips (sampleSealedTiers ⟨0, 1, 132, 7⟩) ⟨0, 3⟩ rfl).1 bytes hbytes
  exact ⟨bytes, hbytes, h.mpr hnamed⟩

end Samples

end Historian
