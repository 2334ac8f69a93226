import Historian.Crc32c
import Historian.ManifestCommit
import Historian.StoreError

namespace Historian

open Wire Checks

def maxRegistrySnapshotBytes : Nat := 64 * 1024 * 1024
def maxRetryStateBytes : Nat := 2 * 1024 * 1024
def maxGenerationCatalogBytes : Nat := 64 + 64 * maxSealedGenerations + 4
def manifestMagic : Bytes := [0x4f, 0x43, 0x48, 0x4d, 0x41, 0x4e, 0x30, 0x31]
def manifestVersion : Nat := 1
def manifestLen : Nat := 160

structure RegistryReference where
  slot : UInt8
  generation : U64
  length : U64
  checksum : U32
  deriving DecidableEq

structure RetryArtifactReference where
  state : RetryStateReference
  length : U64
  checksum : U32
  deriving DecidableEq

structure RecoveryReference where
  slot : UInt8
  checksum : U32
  deriving DecidableEq

/-- One manifest slot: the root of everything that the store has committed. -/
structure ManifestRecord where
  generation : U64
  registry : RegistryReference
  cutoff : DurableCutoff
  retry : RetryArtifactReference
  recovery : Option RecoveryReference
  sequenceFloor : U64
  catalog : Option GenerationCatalogReference
  deriving DecidableEq

def ManifestRecord.commit (record : ManifestRecord) : ManifestCommit :=
  ⟨record.generation, record.registry.generation, record.registry.slot, record.cutoff,
    record.retry.state, record.sequenceFloor, record.catalog⟩

def encodeRecoveryReference : Option RecoveryReference → Bytes
  | some recovery => [[1], [recovery.slot], zeros 2, toBE 4 recovery.checksum].flatten
  | none => zeros 8

def encodeCatalogReference : Option GenerationCatalogReference → Bytes
  | some catalog =>
    [[catalog.slot], zeros 3, toBE 8 catalog.generation, toBE 8 catalog.length,
      toBE 4 catalog.checksum].flatten
  | none => zeros 24

/-- The fields of the first 156 bytes, in order of their offsets. -/
def manifestFields (record : ManifestRecord) : List Bytes :=
  [manifestMagic, toBE 2 manifestVersion, toBE 2 manifestLen, record.cutoff.journal.storeId.bytes,
    toBE 8 record.generation, toBE 8 record.cutoff.journal.generation,
    toBE 8 record.cutoff.checkpointGeneration, toBE 8 record.cutoff.appendSequence,
    toBE 8 record.cutoff.endOffset, [record.registry.slot], zeros 3,
    toBE 8 record.registry.generation, toBE 8 record.registry.length,
    toBE 4 record.registry.checksum, [record.retry.state.slot], zeros 3,
    toBE 8 record.retry.state.generation, toBE 8 record.retry.length,
    toBE 4 record.retry.checksum, encodeRecoveryReference record.recovery,
    toBE 8 record.sequenceFloor, encodeCatalogReference record.catalog]

def manifestBody (record : ManifestRecord) : Bytes := (manifestFields record).flatten

def encodeManifest (record : ManifestRecord) : Bytes := withChecksum (manifestBody record)

def manifestChecksum (record : ManifestRecord) : U32 := u32At (encodeManifest record) 156

/-- Magic, version and length of the record. -/
def manifestHeaderValid (bytes : Bytes) : Bool :=
  bytes.length = manifestLen ∧ slice bytes 0 8 = manifestMagic ∧
    u16At bytes 8 = manifestVersion ∧ u16At bytes 10 = manifestLen

def decodeRecoveryReference (bytes : Bytes) :
    Except ManifestStoreError (Option RecoveryReference) :=
  if byteAt bytes 116 = 0 ∧ slice bytes 117 7 = zeros 7 then .ok none
  else if byteAt bytes 116 = 1 ∧ byteAt bytes 117 < 3 ∧ slice bytes 118 2 = zeros 2 then
    .ok (some ⟨byteAt bytes 117, u32At bytes 120⟩)
  else .error .invalidManifest

def decodeCatalogReference (bytes : Bytes) :
    Except ManifestStoreError (Option GenerationCatalogReference) :=
  if slice bytes 132 24 = zeros 24 then .ok none
  else do
    let reference : GenerationCatalogReference :=
      ⟨byteAt bytes 132, u64At bytes 136, u64At bytes 144, u32At bytes 152⟩
    refuse (3 ≤ reference.slot ∨ reference.generation = 0 ∨ reference.length = 0 ∨
      maxGenerationCatalogBytes < reference.length.val) .invalidManifest
    pure (some reference)

def decodeManifest (bytes : Bytes) (storeId : StoreId) :
    Except ManifestStoreError ManifestRecord := do
  refuse (manifestHeaderValid bytes = false ∨ slice bytes 69 3 ≠ zeros 3 ∨
    slice bytes 93 3 ≠ zeros 3 ∨ slice bytes 133 3 ≠ zeros 3 ∨
    crc32c (slice bytes 0 156) ≠ u32At bytes 156) .invalidManifest
  let retry : RetryArtifactReference :=
    ⟨⟨byteAt bytes 92, u64At bytes 96⟩, u64At bytes 104, u32At bytes 112⟩
  let recovery ← decodeRecoveryReference bytes
  refuse (3 ≤ retry.state.slot ∨ retry.state.generation = 0 ∨ retry.length = 0 ∨
    maxRetryStateBytes < retry.length.val) .invalidManifest
  let sequenceFloor := u64At bytes 124
  let catalog ← decodeCatalogReference bytes
  let decodedStore ←
    (Identity.fromBytes (slice bytes 12 16)).mapError fun _ => ManifestStoreError.invalidManifest
  refuse (decodedStore ≠ storeId) .storeMismatch
  let generation := u64At bytes 28
  let journalGeneration := u64At bytes 36
  let checkpointGeneration := u64At bytes 44
  let appendSequence := u64At bytes 52
  let endOffset := u64At bytes 60
  let registry : RegistryReference :=
    ⟨byteAt bytes 68, u64At bytes 72, u64At bytes 80, u32At bytes 88⟩
  refuse (generation = 0 ∨ journalGeneration = 0 ∨
    (journalGeneration.val = activeJournalGeneration ∧ (sequenceFloor ≠ 0 ∨ catalog ≠ none)) ∨
    (activeJournalGeneration < journalGeneration.val ∧ (sequenceFloor = 0 ∨ catalog = none)) ∨
    checkpointGeneration = 0 ∨ 3 ≤ registry.slot ∨ registry.generation = 0 ∨
    generation < registry.generation ∨ registry.length = 0 ∨
    maxRegistrySnapshotBytes < registry.length.val ∨ generation < retry.state.generation ∨
    appendSequence < sequenceFloor ∨
    ¬(appendSequence = sequenceFloor ↔ endOffset.val = journalV1HeaderLen)) .invalidManifest
  pure ⟨generation, registry,
    ⟨⟨storeId, journalGeneration⟩, checkpointGeneration, appendSequence, endOffset⟩,
    retry, recovery, sequenceFloor, catalog⟩

/-- The relations that every readable manifest of a store satisfies. -/
structure ManifestRecord.Valid (record : ManifestRecord) (storeId : StoreId) : Prop where
  store : record.cutoff.journal.storeId = storeId
  recovery : ∀ reference ∈ record.recovery, reference.slot < 3
  retrySlot : record.retry.state.slot < 3
  retryGeneration : record.retry.state.generation ≠ 0
  retryLength : record.retry.length ≠ 0
  retryBound : record.retry.length.val ≤ maxRetryStateBytes
  catalog : ∀ reference ∈ record.catalog, reference.slot < 3 ∧ reference.generation ≠ 0 ∧
    reference.length ≠ 0 ∧ reference.length.val ≤ maxGenerationCatalogBytes
  generation : record.generation ≠ 0
  journalGeneration : record.cutoff.journal.generation ≠ 0
  firstGeneration : record.cutoff.journal.generation.val = activeJournalGeneration →
    record.sequenceFloor = 0 ∧ record.catalog = none
  laterGeneration : activeJournalGeneration < record.cutoff.journal.generation.val →
    record.sequenceFloor ≠ 0 ∧ record.catalog ≠ none
  checkpoint : record.cutoff.checkpointGeneration ≠ 0
  registrySlot : record.registry.slot < 3
  registryGeneration : record.registry.generation ≠ 0
  registryOrder : record.registry.generation ≤ record.generation
  registryLength : record.registry.length ≠ 0
  registryBound : record.registry.length.val ≤ maxRegistrySnapshotBytes
  retryOrder : record.retry.state.generation ≤ record.generation
  floor : record.sequenceFloor ≤ record.cutoff.appendSequence
  empty : record.cutoff.appendSequence = record.sequenceFloor ↔
    record.cutoff.endOffset.val = journalV1HeaderLen

theorem length_encodeRecoveryReference (recovery : Option RecoveryReference) :
    (encodeRecoveryReference recovery).length = 8 := by
  cases recovery with
  | none => rfl
  | some reference => simp [encodeRecoveryReference]

theorem length_encodeCatalogReference (catalog : Option GenerationCatalogReference) :
    (encodeCatalogReference catalog).length = 24 := by
  cases catalog with
  | none => rfl
  | some reference => simp [encodeCatalogReference]

/-- The lengths of the fields of a manifest, in order. -/
def manifestLayout : List Nat :=
  [8, 2, 2, 16, 8, 8, 8, 8, 8, 1, 3, 8, 8, 4, 1, 3, 8, 8, 4, 8, 8, 24]

theorem manifestFields_lengths (record : ManifestRecord) :
    (manifestFields record).map List.length = manifestLayout := by
  have hstore := record.cutoff.journal.storeId.length_eq
  simp [manifestFields, manifestLayout, manifestMagic, hstore, length_encodeRecoveryReference,
    length_encodeCatalogReference]

theorem length_manifestBody (record : ManifestRecord) : (manifestBody record).length = 156 := by
  rw [manifestBody, List.length_flatten, manifestFields_lengths]
  rfl

theorem length_encodeManifest (record : ManifestRecord) :
    (encodeManifest record).length = manifestLen := by
  unfold encodeManifest
  rw [length_withChecksum, length_manifestBody]
  rfl

theorem cut_manifestBody (record : ManifestRecord) :
    cut (manifestBody record) 0 manifestLayout = manifestFields record := by
  rw [← manifestFields_lengths record]
  exact cut_flatten _

/-- A field of the body is read where the layout puts it. -/
theorem slice_encodeManifest (record : ManifestRecord) {start len : Nat}
    (h : start + len ≤ 156) :
    slice (encodeManifest record) start len = slice (manifestBody record) start len :=
  slice_withChecksum (by rw [length_manifestBody]; exact h)

theorem decodeRecoveryReference_ok {bytes : Bytes} (hlen : 124 ≤ bytes.length)
    {recovery : Option RecoveryReference} :
    decodeRecoveryReference bytes = .ok recovery ↔
      (∀ reference ∈ recovery, reference.slot < 3) ∧
        slice bytes 116 8 = encodeRecoveryReference recovery := by
  have hflag := slice_of_byteAt (show 116 + 1 ≤ bytes.length by omega)
  have hslot := slice_of_byteAt (show 117 + 1 ≤ bytes.length by omega)
  have hsum := slice_of_u32At (show 120 + 4 ≤ bytes.length by omega)
  unfold decodeRecoveryReference
  constructor
  · intro h
    split at h
    next hnone =>
      cases h
      have hall := slice_add bytes 116 1 7
      rw [hflag, hnone.1, hnone.2] at hall
      exact ⟨by simp, hall⟩
    next =>
      split at h
      next hsome =>
        cases h
        have hall := flatten_cut bytes 116 [1, 1, 2, 4]
        simp only [cut, List.sum_cons, List.sum_nil, Nat.reduceAdd] at hall
        rw [hflag, hslot, hsome.1, hsome.2.2, hsum] at hall
        exact ⟨by simpa using hsome.2.1, hall.symm⟩
      next => cases h
  · intro h
    have hfield : ∀ start len, start + len ≤ 8 → slice bytes (116 + start) len =
        slice (encodeRecoveryReference recovery) start len := by
      intro start len hle
      rw [← h.2, slice_slice hle]
    cases recovery with
    | none =>
      have htag : byteAt bytes 116 = 0 := byteAt_of_slice (hfield 0 1 (by omega))
      exact if_pos ⟨htag, hfield 1 7 (by omega)⟩
    | some reference =>
      have htag : byteAt bytes 116 = 1 := byteAt_of_slice (hfield 0 1 (by omega))
      have hplace : byteAt bytes 117 = reference.slot := byteAt_of_slice (hfield 1 1 (by omega))
      have hchecksum : u32At bytes 120 = reference.checksum :=
        u32At_of_slice (hfield 4 4 (by omega))
      have hbound : reference.slot < 3 := h.1 reference rfl
      rw [if_neg (by simp [htag]), hplace, hchecksum]
      exact if_pos ⟨htag, hbound, hfield 2 2 (by omega)⟩

theorem decodeCatalogReference_ok {bytes : Bytes} (hlen : 156 ≤ bytes.length)
    (hzero : slice bytes 133 3 = zeros 3) {catalog : Option GenerationCatalogReference} :
    decodeCatalogReference bytes = .ok catalog ↔
      (∀ reference ∈ catalog, reference.slot < 3 ∧ reference.generation ≠ 0 ∧
        reference.length ≠ 0 ∧ reference.length.val ≤ maxGenerationCatalogBytes) ∧
        slice bytes 132 24 = encodeCatalogReference catalog := by
  have hslot := slice_of_byteAt (show 132 + 1 ≤ bytes.length by omega)
  have hgeneration := slice_of_u64At (show 136 + 8 ≤ bytes.length by omega)
  have hlength := slice_of_u64At (show 144 + 8 ≤ bytes.length by omega)
  have hsum := slice_of_u32At (show 152 + 4 ≤ bytes.length by omega)
  have hall := flatten_cut bytes 132 [1, 3, 8, 8, 4]
  simp only [cut, List.sum_cons, List.sum_nil, Nat.reduceAdd] at hall
  rw [hslot, hzero, hgeneration, hlength, hsum] at hall
  unfold decodeCatalogReference
  constructor
  · intro h
    split at h
    next hnone =>
      cases h
      exact ⟨by simp, hnone⟩
    next =>
      simp only [then_ok, refuse_ok, pure_ok, not_or, Nat.not_lt] at h
      obtain ⟨⟨hs, hg, hl, hb⟩, rfl⟩ := h
      have hs' : byteAt bytes 132 < 3 := UInt8.not_le.mp hs
      refine ⟨?_, hall.symm⟩
      intro reference hreference
      cases hreference
      exact ⟨hs', hg, hl, hb⟩
  · intro h
    have hfield : ∀ start len, start + len ≤ 24 → slice bytes (132 + start) len =
        slice (encodeCatalogReference catalog) start len := by
      intro start len hle
      rw [← h.2, slice_slice hle]
    cases catalog with
    | none => exact if_pos h.2
    | some reference =>
      obtain ⟨hs, hg, hl, hb⟩ := h.1 reference rfl
      have hcut := cut_flatten [[reference.slot], zeros 3, toBE 8 reference.generation,
        toBE 8 reference.length, toBE 4 reference.checksum]
      simp only [List.map_cons, List.map_nil, List.length_singleton, length_zeros, length_toBE,
        cut, List.cons.injEq, Nat.reduceAdd, and_true] at hcut
      obtain ⟨hc0, -, hc4, hc12, hc20⟩ := hcut
      have hplace : byteAt bytes 132 = reference.slot :=
        byteAt_of_slice ((hfield 0 1 (by omega)).trans hc0)
      have hgen : u64At bytes 136 = reference.generation :=
        u64At_of_slice ((hfield 4 8 (by omega)).trans hc4)
      have hlong : u64At bytes 144 = reference.length :=
        u64At_of_slice ((hfield 12 8 (by omega)).trans hc12)
      have hchecksum : u32At bytes 152 = reference.checksum :=
        u32At_of_slice ((hfield 20 4 (by omega)).trans hc20)
      have hsome : slice bytes 132 24 ≠ zeros 24 := by
        intro hz
        -- a zero field has generation zero
        have hg0 : slice bytes 136 8 = slice (zeros 24) 4 8 := by
          rw [← hz, slice_slice (by omega)]
        have : u64At bytes 136 = 0 := u64At_of_slice hg0
        exact hg (hgen ▸ this)
      rw [if_neg hsome]
      simp only [then_ok, refuse_ok, pure_ok, not_or, Nat.not_lt]
      refine ⟨⟨?_, ?_, ?_, ?_⟩, ?_⟩
      · rw [hplace]
        exact UInt8.not_le.mpr hs
      · rw [hgen]
        exact hg
      · rw [hlong]
        exact hl
      · rw [hlong]
        exact hb
      · rw [hplace, hgen, hlong, hchecksum]

theorem manifestHeaderValid_iff {bytes : Bytes} :
    manifestHeaderValid bytes = true ↔ bytes.length = manifestLen ∧
      slice bytes 0 8 = manifestMagic ∧ slice bytes 8 2 = toBE 2 manifestVersion ∧
      slice bytes 10 2 = toBE 2 manifestLen := by
  unfold manifestHeaderValid
  rw [decide_eq_true_eq]
  constructor
  · intro h
    obtain ⟨hlen, hmagic, hversion, hlength⟩ := h
    have h160 : bytes.length = 160 := hlen
    refine ⟨hlen, hmagic, ?_, ?_⟩
    · rw [← hversion]
      exact slice_of_u16At (by omega)
    · rw [← hlength]
      exact slice_of_u16At (by omega)
  · intro h
    obtain ⟨hlen, hmagic, hversion, hlength⟩ := h
    exact ⟨hlen, hmagic, u16At_of_slice (by decide) hversion, u16At_of_slice (by decide) hlength⟩

/-- The body of a manifest whose fields are read one by one. -/
theorem cut_manifest (bytes : Bytes) (hlen : bytes.length = manifestLen)
    (hheader : manifestHeaderValid bytes = true) (h69 : slice bytes 69 3 = zeros 3)
    (h93 : slice bytes 93 3 = zeros 3) :
    cut bytes 0 manifestLayout =
      [manifestMagic, toBE 2 manifestVersion, toBE 2 manifestLen, slice bytes 12 16,
        toBE 8 (u64At bytes 28), toBE 8 (u64At bytes 36), toBE 8 (u64At bytes 44),
        toBE 8 (u64At bytes 52), toBE 8 (u64At bytes 60), [byteAt bytes 68], zeros 3,
        toBE 8 (u64At bytes 72), toBE 8 (u64At bytes 80), toBE 4 (u32At bytes 88),
        [byteAt bytes 92], zeros 3, toBE 8 (u64At bytes 96), toBE 8 (u64At bytes 104),
        toBE 4 (u32At bytes 112), slice bytes 116 8, toBE 8 (u64At bytes 124),
        slice bytes 132 24] := by
  have h160 : bytes.length = 160 := hlen
  obtain ⟨-, hmagic, hversion, hlength⟩ := manifestHeaderValid_iff.mp hheader
  have hu64 : ∀ start, start + 8 ≤ 160 → slice bytes start 8 = toBE 8 (u64At bytes start) := by
    intro start hle
    exact slice_of_u64At (by omega)
  have hu32 : ∀ start, start + 4 ≤ 160 → slice bytes start 4 = toBE 4 (u32At bytes start) := by
    intro start hle
    exact slice_of_u32At (by omega)
  have hu8 : ∀ start, start + 1 ≤ 160 → slice bytes start 1 = [byteAt bytes start] := by
    intro start hle
    exact slice_of_byteAt (by omega)
  simp only [cut, manifestLayout, Nat.reduceAdd]
  rw [hmagic, hversion, hlength, h69, h93, hu64 28 (by omega), hu64 36 (by omega),
    hu64 44 (by omega), hu64 52 (by omega), hu64 60 (by omega), hu8 68 (by omega),
    hu64 72 (by omega), hu64 80 (by omega), hu32 88 (by omega), hu8 92 (by omega),
    hu64 96 (by omega), hu64 104 (by omega), hu32 112 (by omega), hu64 124 (by omega)]

/-- A manifest is accepted exactly when it is the encoding of a valid record of the store. -/
theorem decodeManifest_ok {bytes : Bytes} {storeId : StoreId} {record : ManifestRecord} :
    decodeManifest bytes storeId = .ok record ↔
      record.Valid storeId ∧ bytes = encodeManifest record := by
  unfold decodeManifest
  simp only [bind_ok, exists_unit, refuse_ok, pure_ok, not_or, not_not, Nat.not_lt, ne_eq,
    mapError_ok, Identity.fromBytes_ok, Bool.not_eq_false]
  constructor
  · intro h
    obtain ⟨⟨hheader, hz69, hz93, hz133, hcrc⟩, recovery, hrecovery,
      ⟨hrs, hrg, hrl, hrb⟩, catalog, hcatalog, store, hstore, rfl,
      ⟨hg, hjg, hfirst, hlater, hck, hregs, hregg, hrego, hregl, hregb, hret, hfloor, hempty⟩,
      rfl⟩ := h
    have hlen := (manifestHeaderValid_iff.mp hheader).1
    have h160 : bytes.length = 160 := hlen
    obtain ⟨hrec, hrecovery⟩ := (decodeRecoveryReference_ok (by omega)).mp hrecovery
    obtain ⟨hcat, hcatalog⟩ := (decodeCatalogReference_ok (by omega) hz133).mp hcatalog
    constructor
    · constructor
      · rfl
      · exact hrec
      · exact UInt8.not_le.mp hrs
      · exact hrg
      · exact hrl
      · exact hrb
      · exact hcat
      · exact hg
      · exact hjg
      · intro hone
        by_contra hc
        exact hfirst ⟨hone, by tauto⟩
      · intro hone
        by_contra hc
        exact hlater ⟨hone, by tauto⟩
      · exact hck
      · exact UInt8.not_le.mp hregs
      · exact hregg
      · exact Fin.not_lt.mp hrego
      · exact hregl
      · exact hregb
      · exact Fin.not_lt.mp hret
      · exact Fin.not_lt.mp hfloor
      · exact hempty
    · have hbody := eq_withChecksum (show bytes.length = 156 + 4 from hlen) hcrc
      have hcut := flatten_cut bytes 0 manifestLayout
      rw [cut_manifest bytes hlen hheader hz69 hz93, hrecovery, hcatalog, hstore] at hcut
      exact hbody.trans (congrArg withChecksum hcut.symm)
  · intro h
    obtain ⟨hvalid, rfl⟩ := h
    have hlen := length_encodeManifest record
    have hcut := cut_manifestBody record
    simp only [cut, manifestLayout, Nat.reduceAdd, manifestFields, List.cons.injEq,
      and_true] at hcut
    obtain ⟨hmagic, hversion, hlength, hstore, hgeneration, hjournal, hcheckpoint, hsequence, hend,
      hregslot, hz69, hreggen, hreglen, hregsum, hretslot, hz93, hretgen, hretlen, hretsum,
      hrecovery, hfloor, hcatalog⟩ := hcut
    have hread : ∀ start len field, start + len ≤ 156 →
        slice (manifestBody record) start len = field →
        slice (encodeManifest record) start len = field := by
      intro start len field hle hfield
      rw [slice_encodeManifest record hle, hfield]
    have hheader : manifestHeaderValid (encodeManifest record) = true :=
      manifestHeaderValid_iff.mpr ⟨hlen, hread 0 8 _ (by omega) hmagic,
        hread 8 2 _ (by omega) hversion, hread 10 2 _ (by omega) hlength⟩
    have hz133 : slice (encodeManifest record) 133 3 = zeros 3 := by
      have hsub : slice (encodeCatalogReference record.catalog) 1 3 = zeros 3 := by
        cases record.catalog with
        | none => rfl
        | some reference => rfl
      rw [← hcatalog, slice_slice (by omega)] at hsub
      exact hread 133 3 _ (by omega) hsub
    have hlong : 156 ≤ (encodeManifest record).length := by
      rw [hlen]
      decide
    rw [u64At_of_slice (hread 28 8 _ (by omega) hgeneration),
      u64At_of_slice (hread 36 8 _ (by omega) hjournal),
      u64At_of_slice (hread 44 8 _ (by omega) hcheckpoint),
      u64At_of_slice (hread 52 8 _ (by omega) hsequence),
      u64At_of_slice (hread 60 8 _ (by omega) hend),
      byteAt_of_slice (hread 68 1 _ (by omega) hregslot),
      u64At_of_slice (hread 72 8 _ (by omega) hreggen),
      u64At_of_slice (hread 80 8 _ (by omega) hreglen),
      u32At_of_slice (hread 88 4 _ (by omega) hregsum),
      byteAt_of_slice (hread 92 1 _ (by omega) hretslot),
      u64At_of_slice (hread 96 8 _ (by omega) hretgen),
      u64At_of_slice (hread 104 8 _ (by omega) hretlen),
      u32At_of_slice (hread 112 4 _ (by omega) hretsum),
      u64At_of_slice (hread 124 8 _ (by omega) hfloor)]
    refine ⟨⟨hheader, hread 69 3 _ (by omega) hz69, hread 93 3 _ (by omega) hz93, hz133,
      withChecksum_agrees (length_manifestBody record)⟩, record.recovery,
      (decodeRecoveryReference_ok (by omega)).mpr
        ⟨hvalid.recovery, hread 116 8 _ (by omega) hrecovery⟩, ?_, record.catalog,
      (decodeCatalogReference_ok hlong hz133).mpr
        ⟨hvalid.catalog, hread 132 24 _ (by omega) hcatalog⟩, storeId, ?_, rfl, ?_, ?_⟩
    · exact ⟨UInt8.not_le.mpr hvalid.retrySlot, hvalid.retryGeneration, hvalid.retryLength,
        hvalid.retryBound⟩
    · rw [hread 12 16 _ (by omega) hstore, hvalid.store]
    · refine ⟨hvalid.generation, hvalid.journalGeneration, ?_, ?_, hvalid.checkpoint,
        UInt8.not_le.mpr hvalid.registrySlot, hvalid.registryGeneration,
        Fin.not_lt.mpr hvalid.registryOrder, hvalid.registryLength, hvalid.registryBound,
        Fin.not_lt.mpr hvalid.retryOrder, Fin.not_lt.mpr hvalid.floor, hvalid.empty⟩
      · intro hc
        have := hvalid.firstGeneration hc.1
        tauto
      · intro hc
        have := hvalid.laterGeneration hc.1
        tauto
    · rw [← hvalid.store]

end Historian
