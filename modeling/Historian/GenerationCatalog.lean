import Historian.RecoveryState

namespace Historian

open Wire Checks

def catalogMagic : Bytes := [0x4f, 0x43, 0x48, 0x43, 0x41, 0x54, 0x30, 0x31]
def catalogVersion : Nat := 1
def catalogHeaderLen : Nat := 64
def catalogEntryLen : Nat := 64
def sealedFormatRawJournalV1 : Nat := 1
def rotationIntentMagic : Bytes := [0x4f, 0x43, 0x48, 0x52, 0x4f, 0x54, 0x30, 0x31]
def rotationIntentVersion : Nat := 1
def rotationIntentLen : Nat := 96

inductive GenerationCodecError where
  | invalid | storeMismatch
  deriving DecidableEq, Repr

/-- What a sealed generation must satisfy behind the one before it, or as the first. -/
def SealedGeneration.Follows (entry : SealedGeneration) (prior : Option SealedGeneration) : Prop :=
  (∀ before ∈ prior, before.journalGeneration.val + 1 = entry.journalGeneration.val ∧
    before.sequenceCutoff = entry.sequenceFloor) ∧
  (prior = none → entry.journalGeneration = 1 ∧ entry.sequenceFloor = 0) ∧
  entry.sequenceFloor < entry.sequenceCutoff ∧ journalV1HeaderLen < entry.endOffset.val ∧
  entry.artifactLength = entry.endOffset ∧ entry.artifactLength.val ≤ maxActiveJournalBytes ∧
  entry.registryGeneration ≠ 0

instance (entry : SealedGeneration) (prior : Option SealedGeneration) :
    Decidable (entry.Follows prior) :=
  inferInstanceAs (Decidable (_ ∧ _))

def GenerationCatalogSnapshot.advance (catalog : GenerationCatalogSnapshot)
    (reference : GenerationCatalogReference) (entry : SealedGeneration) :
    Except GenerationCodecError GenerationCatalogSnapshot := do
  refuse (maxSealedGenerations ≤ catalog.entries.length ∨ 3 ≤ reference.slot ∨
    reference.generation = 0 ∨
    (∃ prior ∈ catalog.reference, prior.generation.val + 1 ≠ reference.generation.val) ∨
    (catalog.reference = none ∧ reference.generation ≠ 1) ∨
    (∃ prior ∈ catalog.reference, prior.slot = reference.slot) ∨
    ¬entry.Follows catalog.entries.getLast?) .invalid
  pure ⟨catalog.storeId, some reference, catalog.entries ++ [entry]⟩

def GenerationCatalogSnapshot.withReference (catalog : GenerationCatalogSnapshot)
    (reference : GenerationCatalogReference) :
    Except GenerationCodecError GenerationCatalogSnapshot := do
  refuse ((∀ current ∈ catalog.reference, current.slot ≠ reference.slot ∨
    current.generation ≠ reference.generation) ∨ 3 ≤ reference.slot ∨
    reference.generation = 0 ∨ reference.length = 0) .invalid
  pure { catalog with reference := some reference }

/-- The fields of the catalog's header, in order of their offsets. -/
def catalogFields (storeId : StoreId) (generation : U64) (count : Nat) : List Bytes :=
  [catalogMagic, toBE 2 catalogVersion, toBE 2 catalogHeaderLen, storeId.bytes,
    toBE 8 generation, toBE 4 count, toBE 8 (count * catalogEntryLen), zeros 16]

def catalogEntryFields (entry : SealedGeneration) : List Bytes :=
  [toBE 8 entry.journalGeneration, toBE 8 entry.sequenceFloor, toBE 8 entry.sequenceCutoff,
    toBE 8 entry.endOffset, toBE 8 entry.registryGeneration, toBE 8 entry.artifactLength,
    toBE 4 entry.artifactChecksum, toBE 2 sealedFormatRawJournalV1, zeros 10]

def catalogEntry (entry : SealedGeneration) : Bytes := (catalogEntryFields entry).flatten

def catalogBody (storeId : StoreId) (generation : U64) (entries : List SealedGeneration) : Bytes :=
  (catalogFields storeId generation entries.length).flatten ++ entries.flatMap catalogEntry

def encodeCatalog (snapshot : GenerationCatalogSnapshot) : Except GenerationCodecError Bytes :=
  match snapshot.reference with
  | none => .error .invalid
  | some reference => do
    refuse (3 ≤ reference.slot ∨ reference.generation = 0 ∨ snapshot.entries = [] ∨
      maxSealedGenerations < snapshot.entries.length) .invalid
    refuse (maxGenerationCatalogBytes <
      catalogHeaderLen + snapshot.entries.length * catalogEntryLen + 4) .invalid
    pure (withChecksum (catalogBody snapshot.storeId reference.generation snapshot.entries))

def decodeCatalogEntries (bytes : Bytes) : Nat → Nat → Option SealedGeneration →
    Except GenerationCodecError (List SealedGeneration)
  | 0, _, _ => .ok []
  | count + 1, offset, prior => do
    refuse (slice bytes (offset + 54) 10 ≠ zeros 10 ∨
      u16At bytes (offset + 52) ≠ sealedFormatRawJournalV1) .invalid
    let entry : SealedGeneration := ⟨u64At bytes offset, u64At bytes (offset + 8),
      u64At bytes (offset + 16), u64At bytes (offset + 24), u64At bytes (offset + 32),
      u64At bytes (offset + 40), u32At bytes (offset + 48)⟩
    refuse (¬entry.Follows prior) .invalid
    let rest ← decodeCatalogEntries bytes count (offset + catalogEntryLen) (some entry)
    pure (entry :: rest)

def decodeCatalog (bytes : Bytes) (slot : UInt8) (expectedStore : StoreId) :
    Except GenerationCodecError GenerationCatalogSnapshot := do
  refuse (3 ≤ slot ∨ bytes.length < catalogHeaderLen + catalogEntryLen + 4 ∨
    maxGenerationCatalogBytes < bytes.length ∨ slice bytes 0 8 ≠ catalogMagic ∨
    u16At bytes 8 ≠ catalogVersion ∨ u16At bytes 10 ≠ catalogHeaderLen ∨
    slice bytes 48 16 ≠ zeros 16) .invalid
  let checksumOffset := bytes.length - 4
  refuse (crc32c (slice bytes 0 checksumOffset) ≠ u32At bytes checksumOffset) .invalid
  let storeId ←
    (Identity.fromBytes (slice bytes 12 16)).mapError fun _ => GenerationCodecError.invalid
  refuse (storeId ≠ expectedStore) .storeMismatch
  let generation := u64At bytes 28
  let count := (u32At bytes 36).val
  let payloadLen := (u64At bytes 40).val
  refuse (generation = 0 ∨ count = 0 ∨ maxSealedGenerations < count ∨
    count * catalogEntryLen ≠ payloadLen ∨ catalogHeaderLen + payloadLen ≠ checksumOffset) .invalid
  let entries ← decodeCatalogEntries bytes count catalogHeaderLen none
  refuse (generation.val ≠ count) .invalid
  let snapshot : GenerationCatalogSnapshot := ⟨storeId,
    some ⟨slot, generation, Fin.ofNat _ bytes.length, crc32c bytes⟩, entries⟩
  let canonical ← encodeCatalog snapshot
  refuse (canonical ≠ bytes) .invalid
  pure snapshot

structure RotationIntent where
  storeId : StoreId
  sourceGeneration : U64
  successorGeneration : U64
  sequenceCutoff : U64
  sourceEndOffset : U64
  registryGeneration : U64
  catalogGeneration : U64
  sourceCheckpointGeneration : U64
  deriving DecidableEq

def rotationIntentFields (intent : RotationIntent) : List Bytes :=
  [rotationIntentMagic, toBE 2 rotationIntentVersion, toBE 2 rotationIntentLen,
    intent.storeId.bytes, toBE 8 intent.sourceGeneration, toBE 8 intent.successorGeneration,
    toBE 8 intent.sequenceCutoff, toBE 8 intent.sourceEndOffset,
    toBE 8 intent.registryGeneration, toBE 8 intent.catalogGeneration,
    toBE 8 intent.sourceCheckpointGeneration, zeros 8]

def rotationIntentBody (intent : RotationIntent) : Bytes := (rotationIntentFields intent).flatten

def encodeRotationIntent (intent : RotationIntent) : Bytes :=
  withChecksum (rotationIntentBody intent)

def decodeRotationIntent (bytes : Bytes) (expectedStore : StoreId) :
    Except GenerationCodecError RotationIntent := do
  refuse (bytes.length ≠ rotationIntentLen ∨ slice bytes 0 8 ≠ rotationIntentMagic ∨
    u16At bytes 8 ≠ rotationIntentVersion ∨ u16At bytes 10 ≠ rotationIntentLen ∨
    slice bytes 84 8 ≠ zeros 8 ∨ crc32c (slice bytes 0 92) ≠ u32At bytes 92) .invalid
  let storeId ←
    (Identity.fromBytes (slice bytes 12 16)).mapError fun _ => GenerationCodecError.invalid
  refuse (storeId ≠ expectedStore) .storeMismatch
  let intent : RotationIntent := ⟨storeId, u64At bytes 28, u64At bytes 36, u64At bytes 44,
    u64At bytes 52, u64At bytes 60, u64At bytes 68, u64At bytes 76⟩
  refuse (intent.sourceGeneration = 0 ∨
    intent.sourceGeneration.val + 1 ≠ intent.successorGeneration.val ∨
    intent.sequenceCutoff = 0 ∨ intent.sourceEndOffset.val ≤ journalV1HeaderLen ∨
    intent.registryGeneration = 0 ∨ intent.catalogGeneration = 0 ∨
    intent.sourceCheckpointGeneration = 0) .invalid
  pure intent

/-- Sealed generations in their order, each behind the one before it. -/
def SealedGeneration.Chained : Option SealedGeneration → List SealedGeneration → Prop
  | _, [] => True
  | prior, entry :: rest => entry.Follows prior ∧ Chained (some entry) rest

def catalogLayout : List Nat := [8, 2, 2, 16, 8, 4, 8, 16]
def catalogEntryLayout : List Nat := [8, 8, 8, 8, 8, 8, 4, 2, 10]

theorem catalogFields_lengths (storeId : StoreId) (generation : U64) (count : Nat) :
    (catalogFields storeId generation count).map List.length = catalogLayout := by
  have hstore := storeId.length_eq
  simp [catalogFields, catalogLayout, catalogMagic, hstore]

theorem catalogEntryFields_lengths (entry : SealedGeneration) :
    (catalogEntryFields entry).map List.length = catalogEntryLayout := by
  simp [catalogEntryFields, catalogEntryLayout]

theorem length_catalogEntry (entry : SealedGeneration) :
    (catalogEntry entry).length = catalogEntryLen := by
  rw [catalogEntry, List.length_flatten, catalogEntryFields_lengths]
  rfl

theorem length_catalogFields (storeId : StoreId) (generation : U64) (count : Nat) :
    (catalogFields storeId generation count).flatten.length = catalogHeaderLen := by
  rw [List.length_flatten, catalogFields_lengths]
  rfl

theorem length_catalogEntries (entries : List SealedGeneration) :
    (entries.flatMap catalogEntry).length = entries.length * catalogEntryLen := by
  induction entries with
  | nil => simp
  | cons entry rest ih =>
    rw [List.flatMap_cons, List.length_append, ih, length_catalogEntry, List.length_cons]
    simp only [catalogEntryLen]
    omega

theorem length_catalogBody (storeId : StoreId) (generation : U64)
    (entries : List SealedGeneration) : (catalogBody storeId generation entries).length =
      catalogHeaderLen + entries.length * catalogEntryLen := by
  rw [catalogBody, List.length_append, length_catalogFields, length_catalogEntries]

theorem decodeCatalogEntries_sound {bytes : Bytes} {count offset : Nat}
    {prior : Option SealedGeneration} {entries : List SealedGeneration}
    (h : decodeCatalogEntries bytes count offset prior = .ok entries) :
    entries.length = count ∧ SealedGeneration.Chained prior entries := by
  induction count generalizing offset prior entries with
  | zero =>
    cases h
    exact ⟨rfl, trivial⟩
  | succ count ih =>
    simp only [decodeCatalogEntries, bind_ok, exists_unit, refuse_ok, pure_ok, not_not] at h
    obtain ⟨-, hfollows, rest, hrest, rfl⟩ := h
    obtain ⟨hlength, hchained⟩ := ih hrest
    exact ⟨by rw [List.length_cons, hlength], hfollows, hchained⟩

/-- The entries are read back one by one from where the encoder has put them. -/
theorem decodeCatalogEntries_complete {entries : List SealedGeneration} {before behind : Bytes}
    {prior : Option SealedGeneration} (h : SealedGeneration.Chained prior entries) :
    decodeCatalogEntries (before ++ (entries.flatMap catalogEntry ++ behind)) entries.length
      before.length prior = .ok entries := by
  induction entries generalizing before prior with
  | nil => rfl
  | cons entry rest ih =>
    obtain ⟨hfollows, hrest⟩ := h
    have hcut : cut (catalogEntry entry) 0 catalogEntryLayout = catalogEntryFields entry := by
      rw [← catalogEntryFields_lengths entry]
      exact cut_flatten _
    simp only [cut, catalogEntryLayout, Nat.reduceAdd, catalogEntryFields, List.cons.injEq,
      and_true] at hcut
    obtain ⟨hgeneration, hfloor, hcutoff, hend, hregistry, hlength, hsum, hformat, hzeros⟩ := hcut
    have hsplit : before ++ ((entry :: rest).flatMap catalogEntry ++ behind) =
        before ++ (catalogEntry entry ++ (rest.flatMap catalogEntry ++ behind)) := by
      rw [List.flatMap_cons, List.append_assoc]
    have hread : ∀ start len field, start + len ≤ 64 →
        slice (catalogEntry entry) start len = field →
        slice (before ++ (catalogEntry entry ++ (rest.flatMap catalogEntry ++ behind)))
          (before.length + start) len = field := by
      intro start len field hle hfield
      have hentry : (catalogEntry entry).length = 64 := length_catalogEntry entry
      rw [slice_skip (by omega), Nat.add_sub_cancel_left, slice_left (by omega), hfield]
    have hih := @ih (before ++ catalogEntry entry) _ hrest
    rw [List.length_append, length_catalogEntry, List.append_assoc] at hih
    have hgen := u64At_of_slice (hread 0 8 _ (by omega) hgeneration)
    rw [Nat.add_zero] at hgen
    rw [List.length_cons, decodeCatalogEntries, hsplit, hgen,
      u64At_of_slice (hread 8 8 _ (by omega) hfloor),
      u64At_of_slice (hread 16 8 _ (by omega) hcutoff),
      u64At_of_slice (hread 24 8 _ (by omega) hend),
      u64At_of_slice (hread 32 8 _ (by omega) hregistry),
      u64At_of_slice (hread 40 8 _ (by omega) hlength),
      u32At_of_slice (hread 48 4 _ (by omega) hsum)]
    simp only [bind_ok, exists_unit, refuse_ok, pure_ok, not_not, not_or]
    exact ⟨⟨hread 54 10 _ (by omega) hzeros,
      u16At_of_slice (by decide) (hread 52 2 _ (by omega) hformat)⟩, hfollows, rest, hih, rfl⟩

theorem encodeCatalog_ok {snapshot : GenerationCatalogSnapshot} {bytes : Bytes} :
    encodeCatalog snapshot = .ok bytes ↔ ∃ reference, snapshot.reference = some reference ∧
      reference.slot < 3 ∧ reference.generation ≠ 0 ∧ snapshot.entries ≠ [] ∧
      snapshot.entries.length ≤ maxSealedGenerations ∧
      bytes = withChecksum
        (catalogBody snapshot.storeId reference.generation snapshot.entries) := by
  unfold encodeCatalog
  cases snapshot.reference with
  | none => simp
  | some reference =>
    simp only [then_ok, refuse_ok, pure_ok, not_or, Nat.not_lt, Option.some.injEq,
      exists_eq_left', UInt8.not_le]
    constructor
    · intro h
      obtain ⟨⟨hslot, hgeneration, hentries, hlength⟩, -, rfl⟩ := h
      exact ⟨hslot, hgeneration, hentries, hlength, rfl⟩
    · intro h
      obtain ⟨hslot, hgeneration, hentries, hlength, rfl⟩ := h
      refine ⟨⟨hslot, hgeneration, hentries, hlength⟩, ?_, rfl⟩
      simp only [maxSealedGenerations] at hlength
      simp only [maxGenerationCatalogBytes, maxSealedGenerations, catalogHeaderLen,
        catalogEntryLen]
      omega

/-- A catalog file is accepted exactly when it is the encoding of a chain of generations. -/
theorem decodeCatalog_ok {bytes : Bytes} {slot : UInt8} {storeId : StoreId}
    {snapshot : GenerationCatalogSnapshot} :
    decodeCatalog bytes slot storeId = .ok snapshot ↔
      snapshot.storeId = storeId ∧ SealedGeneration.Chained none snapshot.entries ∧
      snapshot.reference = some ⟨slot, Fin.ofNat _ snapshot.entries.length,
        Fin.ofNat _ bytes.length, crc32c bytes⟩ ∧ encodeCatalog snapshot = .ok bytes := by
  constructor
  · intro h
    unfold decodeCatalog at h
    simp only [bind_ok, exists_unit, refuse_ok, pure_ok, mapError_ok, not_not] at h
    obtain ⟨-, -, store, -, hstore, -, entries, hentries, hcount, canonical, hcanonical, rfl,
      rfl⟩ := h
    obtain ⟨hlength, hchained⟩ := decodeCatalogEntries_sound hentries
    have hgeneration : u64At canonical 28 = Fin.ofNat _ entries.length := by
      rw [hlength, ← hcount]
      exact (Fin.ofNat_val_eq_self _).symm
    exact ⟨hstore, hchained, by rw [hgeneration], hcanonical⟩
  · intro h
    obtain ⟨rfl, hchained, hreference, hencode⟩ := h
    obtain ⟨reference, hsome, hslot, hgeneration, hentries, hlength, hbytes⟩ :=
      encodeCatalog_ok.mp hencode
    have href : reference = _ := Option.some.inj (hsome.symm.trans hreference)
    have hslot' : reference.slot = slot := by rw [href]
    have hnumber : reference.generation = Fin.ofNat _ snapshot.entries.length := by rw [href]
    have h64 : snapshot.entries.length ≤ 64 := hlength
    have hpos : 0 < snapshot.entries.length := List.length_pos_iff.mpr hentries
    have hval : reference.generation.val = snapshot.entries.length := by
      rw [hnumber, Fin.val_ofNat, Nat.mod_eq_of_lt (by omega)]
    have hbody : (catalogBody snapshot.storeId reference.generation snapshot.entries).length =
        64 + snapshot.entries.length * 64 := length_catalogBody _ _ _
    have htotal : bytes.length = 64 + snapshot.entries.length * 64 + 4 := by
      rw [hbytes, length_withChecksum, hbody]
    have hcut : cut (catalogFields snapshot.storeId reference.generation
        snapshot.entries.length).flatten 0 catalogLayout =
          catalogFields snapshot.storeId reference.generation snapshot.entries.length := by
      rw [← catalogFields_lengths snapshot.storeId reference.generation snapshot.entries.length]
      exact cut_flatten _
    simp only [cut, catalogLayout, Nat.reduceAdd, catalogFields, List.cons.injEq,
      and_true] at hcut
    obtain ⟨hmagic, hversion, hheader, hstore, hgen, hcount, hpayload, hzeros⟩ := hcut
    have hread : ∀ start len field, start + len ≤ 64 →
        slice (catalogFields snapshot.storeId reference.generation
          snapshot.entries.length).flatten start len = field →
        slice bytes start len = field := by
      intro start len field hle hfield
      have hfields := length_catalogFields snapshot.storeId reference.generation
        snapshot.entries.length
      simp only [catalogHeaderLen] at hfields
      rw [hbytes, slice_withChecksum (by omega), catalogBody, slice_left (by omega), hfield]
    have hentriesRead : decodeCatalogEntries bytes snapshot.entries.length catalogHeaderLen none =
        .ok snapshot.entries := by
      rw [hbytes, withChecksum, catalogBody, List.append_assoc,
        ← length_catalogFields snapshot.storeId reference.generation snapshot.entries.length]
      exact decodeCatalogEntries_complete hchained
    have hcrc : crc32c (slice bytes 0 (bytes.length - 4)) = u32At bytes (bytes.length - 4) := by
      rw [htotal, Nat.add_sub_cancel, hbytes]
      exact withChecksum_agrees hbody
    have hcountRead : (u32At bytes 36).val = snapshot.entries.length := by
      have hfin : toBE 4 snapshot.entries.length =
          toBE 4 (⟨snapshot.entries.length, by omega⟩ : U32) := rfl
      rw [u32At_of_slice ((hread 36 4 _ (by omega) hcount).trans hfin)]
    have hpayloadRead : (u64At bytes 40).val = snapshot.entries.length * 64 := by
      have hfin : toBE 8 (snapshot.entries.length * catalogEntryLen) =
          toBE 8 (⟨snapshot.entries.length * 64, by omega⟩ : U64) := rfl
      rw [u64At_of_slice ((hread 40 8 _ (by omega) hpayload).trans hfin)]
    unfold decodeCatalog
    simp only [bind_ok, exists_unit, refuse_ok, pure_ok, mapError_ok, not_not, not_or,
      Identity.fromBytes_ok, Nat.not_lt, UInt8.not_le]
    rw [hcountRead, hpayloadRead, u64At_of_slice (hread 28 8 _ (by omega) hgen)]
    refine ⟨⟨hslot' ▸ hslot, ?_, ?_, hread 0 8 _ (by omega) hmagic,
      u16At_of_slice (by decide) (hread 8 2 _ (by omega) hversion),
      u16At_of_slice (by decide) (hread 10 2 _ (by omega) hheader),
      hread 48 16 _ (by omega) hzeros⟩, hcrc, snapshot.storeId, hread 12 16 _ (by omega) hstore,
      rfl, ⟨hgeneration, by omega, hlength, rfl, ?_⟩, snapshot.entries, hentriesRead, hval, bytes,
      ?_, rfl, ?_⟩
    · simp only [catalogHeaderLen, catalogEntryLen]
      omega
    · simp only [maxGenerationCatalogBytes, maxSealedGenerations]
      omega
    · simp only [catalogHeaderLen]
      omega
    · rw [hnumber, ← hreference]
      exact hencode
    · rw [← hnumber] at hreference
      rw [← hreference]

/-- What the rotation that an intent announces has to satisfy. -/
structure RotationIntent.Valid (intent : RotationIntent) : Prop where
  source : intent.sourceGeneration ≠ 0
  successor : intent.sourceGeneration.val + 1 = intent.successorGeneration.val
  cutoff : intent.sequenceCutoff ≠ 0
  nonempty : journalV1HeaderLen < intent.sourceEndOffset.val
  registry : intent.registryGeneration ≠ 0
  catalog : intent.catalogGeneration ≠ 0
  checkpoint : intent.sourceCheckpointGeneration ≠ 0

def rotationIntentLayout : List Nat := [8, 2, 2, 16, 8, 8, 8, 8, 8, 8, 8, 8]

theorem rotationIntentFields_lengths (intent : RotationIntent) :
    (rotationIntentFields intent).map List.length = rotationIntentLayout := by
  have hstore := intent.storeId.length_eq
  simp [rotationIntentFields, rotationIntentLayout, rotationIntentMagic, hstore]

theorem length_rotationIntentBody (intent : RotationIntent) :
    (rotationIntentBody intent).length = 92 := by
  rw [rotationIntentBody, List.length_flatten, rotationIntentFields_lengths]
  rfl

theorem length_encodeRotationIntent (intent : RotationIntent) :
    (encodeRotationIntent intent).length = rotationIntentLen := by
  rw [encodeRotationIntent, length_withChecksum, length_rotationIntentBody]
  rfl

/-- The intent that was written is the one that is read. -/
theorem decode_encodeRotationIntent {intent : RotationIntent} (h : intent.Valid) :
    decodeRotationIntent (encodeRotationIntent intent) intent.storeId = .ok intent := by
  have hcut : cut (rotationIntentBody intent) 0 rotationIntentLayout =
      rotationIntentFields intent := by
    rw [← rotationIntentFields_lengths intent]
    exact cut_flatten _
  simp only [cut, rotationIntentLayout, Nat.reduceAdd, rotationIntentFields, List.cons.injEq,
    and_true] at hcut
  obtain ⟨hmagic, hversion, hlength, hstore, hsource, hsuccessor, hcutoff, hend, hregistry,
    hcatalog, hcheckpoint, hzeros⟩ := hcut
  have hread : ∀ start len field, start + len ≤ 92 →
      slice (rotationIntentBody intent) start len = field →
      slice (encodeRotationIntent intent) start len = field := by
    intro start len field hle hfield
    rw [encodeRotationIntent, slice_withChecksum (by rw [length_rotationIntentBody]; exact hle),
      hfield]
  unfold decodeRotationIntent
  simp only [bind_ok, exists_unit, refuse_ok, pure_ok, mapError_ok, not_not, not_or,
    Identity.fromBytes_ok, Nat.not_le]
  rw [u64At_of_slice (hread 28 8 _ (by omega) hsource),
    u64At_of_slice (hread 36 8 _ (by omega) hsuccessor),
    u64At_of_slice (hread 44 8 _ (by omega) hcutoff),
    u64At_of_slice (hread 52 8 _ (by omega) hend),
    u64At_of_slice (hread 60 8 _ (by omega) hregistry),
    u64At_of_slice (hread 68 8 _ (by omega) hcatalog),
    u64At_of_slice (hread 76 8 _ (by omega) hcheckpoint)]
  exact ⟨⟨length_encodeRotationIntent intent, hread 0 8 _ (by omega) hmagic,
    u16At_of_slice (by decide) (hread 8 2 _ (by omega) hversion),
    u16At_of_slice (by decide) (hread 10 2 _ (by omega) hlength),
    hread 84 8 _ (by omega) hzeros, withChecksum_agrees (length_rotationIntentBody intent)⟩,
    intent.storeId, hread 12 16 _ (by omega) hstore, rfl,
    ⟨h.source, h.successor, h.cutoff, h.nonempty, h.registry, h.catalog, h.checkpoint⟩, rfl⟩

theorem RotationIntent.valid_of_decode {bytes : Bytes} {storeId : StoreId}
    {intent : RotationIntent} (h : decodeRotationIntent bytes storeId = .ok intent) :
    intent.storeId = storeId ∧ intent.Valid := by
  unfold decodeRotationIntent at h
  simp only [bind_ok, exists_unit, refuse_ok, pure_ok, mapError_ok, not_not, not_or,
    Nat.not_le] at h
  obtain ⟨-, store, -, rfl, ⟨h1, h2, h3, h4, h5, h6, h7⟩, rfl⟩ := h
  exact ⟨rfl, h1, h2, h3, h4, h5, h6, h7⟩

end Historian
