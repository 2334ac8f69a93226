import Historian.Inventory

namespace Historian

open Wire Checks

instance : IsTrans ArtifactFingerprint nameOrder := ⟨fun _ _ _ h h' => List.le_trans h h'⟩

instance : Std.Total nameOrder := ⟨fun _ _ => List.le_total _ _⟩

theorem length_parsePairs (bytes : Bytes) : (parsePairs bytes).length = bytes.length / 2 := by
  induction bytes using parsePairs.induct with
  | case1 high low rest ih =>
    rw [parsePairs, List.length_cons, ih, List.length_cons, List.length_cons]
    omega
  | case2 bytes hshort =>
    rcases bytes with _ | ⟨high, _ | ⟨low, rest⟩⟩
    · rfl
    · simp [parsePairs]
    · exact absurd rfl (hshort high low rest)

theorem length_parseHex {value : Text} {digest : Bytes} (h : parseHex value = .ok digest) :
    digest.length = digestBytes := by
  unfold parseHex at h
  simp only [then_ok, refuse_ok, not_or, not_not, pure_ok] at h
  obtain ⟨⟨hlength, -⟩, rfl⟩ := h
  rw [length_parsePairs, hlength]
  rfl

namespace ArtifactFingerprint

/-- The digest that a fingerprint spells. -/
def digest (artifact : ArtifactFingerprint) : Bytes :=
  (parseHex artifact.sha256).toOption.getD []

/-- The pieces of an artifact in the order in which they are hashed. -/
def pieces (artifact : ArtifactFingerprint) : List Bytes :=
  [toBE 2 artifact.name.len, utf8Encode artifact.name, [1], toBE 8 artifact.logicalLength,
    artifact.digest]

/-- The frame that an artifact has in the concatenation. -/
def frame (artifact : ArtifactFingerprint) : Bytes :=
  toBE 2 artifact.name.len ++ (utf8Encode artifact.name ++ ([1] ++
    (toBE 8 artifact.logicalLength ++ artifact.digest)))

/-- What a frame tells of its artifact. -/
def triple (artifact : ArtifactFingerprint) : Text × U64 × Bytes :=
  (artifact.name, artifact.logicalLength, artifact.digest)

/-- An artifact whose pieces can be formed. -/
structure Hashable (artifact : ArtifactFingerprint) : Prop where
  name_lt : artifact.name.len < 2 ^ 16
  parses : parseHex artifact.sha256 = .ok artifact.digest

/-- An artifact that is safe by itself. -/
structure Safe (artifact : ArtifactFingerprint) : Prop where
  no_slash : '/' ∉ artifact.name
  no_backslash : '\\' ∉ artifact.name
  not_here : artifact.name ≠ ['.']
  not_above : artifact.name ≠ ['.', '.']
  kind : artifact.kind = ['F', 'I', 'L', 'E']
  length_le : artifact.logicalLength.val ≤ maxArtifactBytes

theorem Hashable.length_digest {artifact : ArtifactFingerprint} (h : artifact.Hashable) :
    artifact.digest.length = 32 := length_parseHex h.parses

theorem flatten_pieces (artifact : ArtifactFingerprint) : artifact.pieces.flatten =
    artifact.frame := by
  simp [pieces, frame]

theorem length_frame {artifact : ArtifactFingerprint} (h : artifact.Hashable) :
    artifact.frame.length = artifact.name.len + 43 := by
  simp only [frame, List.length_append, length_toBE, List.length_singleton, h.length_digest]
  unfold Text.len
  omega

end ArtifactFingerprint

theorem digest_of_parse {artifact : ArtifactFingerprint} {digest : Bytes}
    (h : parseHex artifact.sha256 = .ok digest) : artifact.digest = digest := by
  unfold ArtifactFingerprint.digest
  rw [h]
  rfl

/-- The hash takes the pieces of an artifact one after the other. -/
theorem hashArtifact_ok {hash next : Sha256} {artifact : ArtifactFingerprint} :
    hashArtifact hash artifact = .ok next ↔
      artifact.Hashable ∧ artifact.pieces.foldlM Sha256.update hash = .ok next := by
  unfold hashArtifact ArtifactFingerprint.pieces
  simp only [bind_ok, exists_unit, refuse_ok, List.foldlM_cons, List.foldlM_nil, pure_ok,
    Nat.not_le]
  constructor
  · intro h
    obtain ⟨hname, h1, hh1, h2, hh2, h3, hh3, h4, hh4, digest, hdigest, hlast⟩ := h
    have heq := digest_of_parse hdigest
    refine ⟨⟨hname, heq ▸ hdigest⟩, h1, hh1, h2, hh2, h3, hh3, h4, hh4, next, ?_, rfl⟩
    rw [heq]
    exact hlast
  · intro h
    obtain ⟨hhashable, h1, hh1, h2, hh2, h3, hh3, h4, hh4, _, hlast, rfl⟩ := h
    exact ⟨hhashable.name_lt, h1, hh1, h2, hh2, h3, hh3, h4, hh4, _, hhashable.parses, hlast⟩

theorem hashArtifacts_ok {artifacts : List ArtifactFingerprint} {hash next : Sha256} :
    artifacts.foldlM hashArtifact hash = .ok next ↔ (∀ artifact ∈ artifacts, artifact.Hashable) ∧
      (artifacts.flatMap ArtifactFingerprint.pieces).foldlM Sha256.update hash = .ok next := by
  induction artifacts generalizing hash with
  | nil => simp
  | cons artifact rest ih =>
    rw [List.foldlM_cons, List.flatMap_cons, List.foldlM_append, List.forall_mem_cons]
    simp only [bind_ok, hashArtifact_ok, ih]
    constructor
    · intro h
      obtain ⟨middle, ⟨hartifact, hfirst⟩, hrest, hlast⟩ := h
      exact ⟨⟨hartifact, hrest⟩, middle, hfirst, hlast⟩
    · intro h
      obtain ⟨⟨hartifact, hrest⟩, middle, hfirst, hlast⟩ := h
      exact ⟨middle, ⟨hartifact, hfirst⟩, hrest, hlast⟩

theorem checkArtifacts_ok {names : List Text} {artifacts : List ArtifactFingerprint} :
    checkArtifacts names artifacts = .ok () ↔ (∀ artifact ∈ artifacts, artifact.Safe) ∧
      (∀ artifact ∈ artifacts, artifact.name ∉ names) ∧
      (artifacts.map ArtifactFingerprint.name).Nodup := by
  induction artifacts generalizing names with
  | nil => simp [checkArtifacts, pure_ok]
  | cons artifact rest ih =>
    rw [checkArtifacts, List.forall_mem_cons, List.forall_mem_cons]
    simp only [then_ok, refuse_ok, ih, not_or, not_not, Nat.not_lt, List.map_cons,
      List.nodup_cons, List.mem_cons, List.mem_map, not_exists, not_and]
    constructor
    · intro h
      obtain ⟨⟨h1, h2, h3, h4, h5, h6, hfresh⟩, hsafe, hnames, hnodup⟩ := h
      refine ⟨⟨⟨h1, h2, h3, h4, h5, h6⟩, hsafe⟩, ⟨hfresh, ?_⟩, ?_, hnodup⟩
      · intro other hother
        exact (hnames other hother).2
      · intro other hother
        exact (hnames other hother).1
    · intro h
      obtain ⟨⟨hartifact, hsafe⟩, ⟨hfresh, hnames⟩, hapart, hnodup⟩ := h
      exact ⟨⟨hartifact.no_slash, hartifact.no_backslash, hartifact.not_here, hartifact.not_above,
        hartifact.kind, hartifact.length_le, hfresh⟩, hsafe,
        fun other hother => ⟨hapart other hother, hnames other hother⟩, hnodup⟩

/-- The lists that the fingerprint accepts. -/
structure Accepted (artifacts : List ArtifactFingerprint) : Prop where
  count_le : artifacts.length ≤ maxV2InventoryEntries
  safe : ∀ artifact ∈ artifacts, artifact.Safe
  nodup : (artifacts.map ArtifactFingerprint.name).Nodup
  hashable : ∀ artifact ∈ artifacts, artifact.Hashable

theorem finishFingerprint_ok {artifacts : List ArtifactFingerprint}
    {fingerprint : InventoryFingerprint} : finishFingerprint artifacts = .ok fingerprint ↔
      Accepted artifacts ∧ ∃ digest,
        chunkedDigest ((artifacts.insertionSort nameOrder).flatMap ArtifactFingerprint.pieces) =
          .ok digest ∧
        fingerprint = ⟨hex digest, artifacts.insertionSort nameOrder⟩ := by
  have hmem := fun artifact => (List.mem_insertionSort nameOrder (l := artifacts) (x := artifact))
  unfold finishFingerprint chunkedDigest
  simp only [bind_ok, exists_unit, refuse_ok, pure_ok, hashArtifacts_ok, checkArtifacts_ok, hmem,
    Nat.not_lt, List.not_mem_nil, not_false_eq_true, implies_true, true_and]
  constructor
  · intro h
    obtain ⟨hcount, ⟨hsafe, hnodup⟩, hash, ⟨hhashable, hfold⟩, digest, hfinish, rfl⟩ := h
    exact ⟨⟨hcount, hsafe, hnodup, hhashable⟩, digest, ⟨hash, hfold, hfinish⟩, rfl⟩
  · intro h
    obtain ⟨hinventory, digest, ⟨hash, hfold, hfinish⟩, rfl⟩ := h
    exact ⟨hinventory.count_le, ⟨hinventory.safe, hinventory.nodup⟩, hash,
      ⟨hinventory.hashable, hfold⟩, digest, hfinish, rfl⟩

end Historian
