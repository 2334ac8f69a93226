import Historian.InventoryHash

namespace Historian

open Wire Checks

variable {artifacts other : List ArtifactFingerprint}

/-- The concatenation of the frames in ascending order of their names. -/
def framed (artifacts : List ArtifactFingerprint) : Bytes :=
  (artifacts.insertionSort nameOrder).flatMap ArtifactFingerprint.frame

def inventoryPieces (artifacts : List ArtifactFingerprint) : List Bytes :=
  (artifacts.insertionSort nameOrder).flatMap ArtifactFingerprint.pieces

theorem flatten_inventoryPieces (artifacts : List ArtifactFingerprint) :
    (inventoryPieces artifacts).flatten = framed artifacts := by
  unfold inventoryPieces framed
  induction artifacts.insertionSort nameOrder with
  | nil => rfl
  | cons artifact rest ih =>
    rw [List.flatMap_cons, List.flatten_append, ih, artifact.flatten_pieces, List.flatMap_cons]

namespace Accepted

theorem perm (h : Accepted artifacts) (hperm : other.Perm artifacts) : Accepted other where
  count_le := hperm.length_eq ▸ h.count_le
  safe artifact hmem := h.safe artifact (hperm.mem_iff.mp hmem)
  nodup := (hperm.map _).nodup_iff.mpr h.nodup
  hashable artifact hmem := h.hashable artifact (hperm.mem_iff.mp hmem)

/-- Artifacts of an inventory differ in their names. -/
theorem eq_of_name (h : Accepted artifacts) {a b : ArtifactFingerprint} (ha : a ∈ artifacts)
    (hb : b ∈ artifacts) (hname : a.name = b.name) : a = b :=
  List.inj_on_of_nodup_map h.nodup ha hb hname

theorem sort_eq (h : Accepted artifacts) (hperm : other.Perm artifacts) :
    other.insertionSort nameOrder = artifacts.insertionSort nameOrder := by
  have hsorted := (List.perm_insertionSort nameOrder other).trans
    (hperm.trans (List.perm_insertionSort nameOrder artifacts).symm)
  refine hsorted.eq_of_pairwise ?_ (List.pairwise_insertionSort _ _)
    (List.pairwise_insertionSort _ _)
  intro a b ha hb hle hge
  rw [List.mem_insertionSort] at ha hb
  exact h.eq_of_name (hperm.mem_iff.mp ha) hb (utf8Encode_inj (List.le_antisymm hle hge))

theorem length_framed (h : Accepted artifacts) : (framed artifacts).length < 2 ^ 61 := by
  have hframes : ∀ (list : List ArtifactFingerprint),
      (∀ artifact ∈ list, artifact.Hashable) →
        (list.flatMap ArtifactFingerprint.frame).length ≤ list.length * (2 ^ 16 + 43) := by
    intro list hlist
    induction list with
    | nil => exact Nat.zero_le _
    | cons artifact rest ih =>
      obtain ⟨hartifact, hrest⟩ := List.forall_mem_cons.mp hlist
      have hle := ih hrest
      have hname := hartifact.name_lt
      have hlength := ArtifactFingerprint.length_frame hartifact
      rw [List.flatMap_cons, List.length_append, List.length_cons, Nat.add_mul, Nat.one_mul]
      omega
  have hcount : maxV2InventoryEntries = 156 := rfl
  have hle := h.count_le
  have hsum := hframes (artifacts.insertionSort nameOrder) fun artifact hmem =>
    h.hashable artifact ((List.mem_insertionSort nameOrder).mp hmem)
  rw [List.length_insertionSort] at hsum
  unfold framed
  omega

end Accepted

/-- A digest depends on what is kept of a message and on its length alone. -/
theorem chunkedDigest_congr {chunks chunks' : List Bytes}
    (hlength : chunks.flatten.length < 2 ^ 61)
    (hlen : chunks'.flatten.length = chunks.flatten.length)
    (hkept : chunks'.foldl retain [] = chunks.foldl retain []) :
    chunkedDigest chunks' = chunkedDigest chunks := by
  rw [chunkedDigest_stream, chunkedDigest_stream, BlockHasher.stream_eq _ _ hlength,
    BlockHasher.stream_eq _ _ (hlen ▸ hlength), hkept, hlen]

theorem chunkedDigest_exists {chunks : List Bytes} (h : chunks.flatten.length < 2 ^ 61) :
    ∃ digest, chunkedDigest chunks = .ok digest := by
  rw [chunkedDigest_stream, BlockHasher.stream_eq _ _ h]
  exact ⟨_, rfl⟩

/-- A frame in front of other bytes can be read off them. -/
theorem frame_append_inj {a b : ArtifactFingerprint} (ha : a.Hashable) (hb : b.Hashable)
    {rest rest' : Bytes} (h : a.frame ++ rest = b.frame ++ rest') :
    a.triple = b.triple ∧ rest = rest' := by
  simp only [ArtifactFingerprint.frame, List.append_assoc] at h
  obtain ⟨hlength, h⟩ := List.append_inj h (by rw [length_toBE, length_toBE])
  have hname : a.name.len = b.name.len := by
    have hread := congrArg ofBE hlength
    rwa [ofBE_toBE ha.name_lt, ofBE_toBE hb.name_lt] at hread
  obtain ⟨hbytes, h⟩ := List.append_inj h hname
  obtain ⟨-, h⟩ := List.append_inj h rfl
  obtain ⟨hlogical, h⟩ := List.append_inj h (by rw [length_toBE, length_toBE])
  obtain ⟨hdigest, hrest⟩ := List.append_inj h (by rw [ha.length_digest, hb.length_digest])
  have hlogical' : a.logicalLength = b.logicalLength := by
    have hread := congrArg ofBE hlogical
    rw [ofBE_toBE a.logicalLength.isLt, ofBE_toBE b.logicalLength.isLt] at hread
    exact Fin.ext hread
  unfold ArtifactFingerprint.triple
  rw [utf8Encode_inj hbytes, hlogical', hdigest]
  exact ⟨rfl, hrest⟩

/-- The frames of a list determine what they were made from. -/
theorem frames_inj {left right : List ArtifactFingerprint}
    (hleft : ∀ artifact ∈ left, artifact.Hashable) (hright : ∀ artifact ∈ right, artifact.Hashable)
    (h : left.flatMap ArtifactFingerprint.frame = right.flatMap ArtifactFingerprint.frame) :
    left.map ArtifactFingerprint.triple = right.map ArtifactFingerprint.triple := by
  induction left generalizing right with
  | nil =>
    cases right with
    | nil => rfl
    | cons b right =>
      have hlength := congrArg List.length h
      rw [List.flatMap_cons, List.length_append,
        ArtifactFingerprint.length_frame (hright b List.mem_cons_self), List.flatMap_nil,
        List.length_nil] at hlength
      omega
  | cons a left ih =>
    obtain ⟨ha, hleft⟩ := List.forall_mem_cons.mp hleft
    cases right with
    | nil =>
      have hlength := congrArg List.length h
      rw [List.flatMap_cons, List.length_append, ArtifactFingerprint.length_frame ha,
        List.flatMap_nil, List.length_nil] at hlength
      omega
    | cons b right =>
      obtain ⟨hb, hright⟩ := List.forall_mem_cons.mp hright
      rw [List.flatMap_cons, List.flatMap_cons] at h
      obtain ⟨hfirst, hrest⟩ := frame_append_inj ha hb h
      rw [List.map_cons, List.map_cons, hfirst, ih hleft hright hrest]

/-- Two chunks that do not reach the end of a block are lost together. -/
theorem retain_short {message first second : Bytes} (haligned : message.length % blockBytes = 0)
    (hfirst : first ≠ []) (hshort : first.length + second.length < blockBytes) :
    retain (retain message first) second = message := by
  have hpositive := List.length_pos_iff.mpr hfirst
  have hmod : (message ++ first).length % blockBytes = first.length := by
    rw [List.length_append]
    unfold blockBytes at *
    omega
  have hneither : ¬((message ++ first).length % blockBytes = 0 ∨
      blockBytes - (message ++ first).length % blockBytes ≤ second.length) := by
    rw [hmod]
    omega
  have hfront : Blocks.front blockBytes (message ++ first) = message := by
    unfold Blocks.front
    apply List.take_left'
    rw [List.length_append]
    unfold blockBytes at *
    omega
  have hretain : retain message first = message ++ first := by
    rw [retain, if_pos (.inl haligned)]
  rw [hretain, retain, if_neg hneither, hfront]

/-- The length of an artifact is lost between its marker and its digest. -/
theorem retain_lengths (message : Bytes) {length length' digest : Bytes}
    (hlength : length.length = 8) (hlength' : length'.length = 8) (hdigest : digest.length = 32) :
    retain (retain (retain message [1]) length) digest =
      retain (retain (retain message [1]) length') digest := by
  have hblock : blockBytes = 64 := rfl
  have hlt := Nat.mod_lt message.length blockBytes_pos
  have hfirst : length ≠ [] := List.ne_nil_of_length_pos (by omega)
  have hfirst' : length' ≠ [] := List.ne_nil_of_length_pos (by omega)
  by_cases hzero : message.length % blockBytes = 0
  · -- the length falls short behind the marker
    have hone : ([1] : Bytes).length + length.length < blockBytes := by
      rw [List.length_singleton]
      omega
    have hone' : ([1] : Bytes).length + length'.length < blockBytes := by
      rw [List.length_singleton]
      omega
    rw [retain_short hzero (List.cons_ne_nil _ _) hone,
      retain_short hzero (List.cons_ne_nil _ _) hone']
  · -- the marker ends a block or is lost, and the digest falls short behind the length
    have haligned : (retain message [1]).length % blockBytes = 0 := by
      unfold retain
      split
      next hfits =>
        rw [List.length_singleton] at hfits
        rw [List.length_append, List.length_singleton]
        unfold blockBytes at *
        omega
      next => exact Blocks.front_aligned message
    rw [retain_short haligned hfirst (by omega), retain_short haligned hfirst' (by omega)]

/-- No artifact has pieces that are all kept. -/
theorem completesBlocks_iff {artifacts : List ArtifactFingerprint} (h : Accepted artifacts) :
    CompletesBlocks 0 (inventoryPieces artifacts) ↔ artifacts = [] := by
  unfold inventoryPieces
  constructor
  · intro hcompletes
    cases hsort : artifacts.insertionSort nameOrder with
    | nil =>
      have hlength := List.length_insertionSort nameOrder artifacts
      rw [hsort, List.length_nil] at hlength
      exact List.eq_nil_of_length_eq_zero hlength.symm
    | cons first rest =>
      rw [hsort, List.flatMap_cons] at hcompletes
      have hmem : first ∈ artifacts :=
        (List.mem_insertionSort nameOrder).mp (hsort ▸ List.mem_cons_self)
      have hdigest := (h.hashable first hmem).length_digest
      obtain ⟨-, -, hmarker, hlength, hlast, -⟩ := hcompletes
      rw [List.length_singleton] at hmarker
      rw [length_toBE, List.length_singleton] at hlength
      rw [hdigest, length_toBE, length_toBE, List.length_singleton] at hlast
      rw [length_toBE] at hmarker
      unfold blockBytes at hmarker hlength hlast
      omega
  · intro hnil
    subst hnil
    exact trivial

end Historian
