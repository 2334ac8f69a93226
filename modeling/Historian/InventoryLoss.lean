import Historian.InventoryAggregate

namespace Historian

open Wire Checks

variable {artifacts : List ArtifactFingerprint} {artifact : ArtifactFingerprint}

namespace ArtifactFingerprint

/-- The same file with another length. -/
def relength (artifact : ArtifactFingerprint) : ArtifactFingerprint :=
  { artifact with logicalLength := if artifact.logicalLength = 0 then 1 else 0 }

theorem relength_ne (artifact : ArtifactFingerprint) :
    artifact.relength.logicalLength ≠ artifact.logicalLength := by
  unfold relength
  dsimp only
  split
  next hzero =>
    rw [hzero]
    decide
  next hpositive => exact Ne.symm hpositive

theorem Safe.relength (h : artifact.Safe) : artifact.relength.Safe where
  no_slash := h.no_slash
  no_backslash := h.no_backslash
  not_here := h.not_here
  not_above := h.not_above
  kind := h.kind
  length_le := by
    unfold ArtifactFingerprint.relength
    dsimp only
    split
    · decide
    · exact Nat.zero_le _

theorem Hashable.relength (h : artifact.Hashable) : artifact.relength.Hashable :=
  ⟨h.name_lt, h.parses⟩

/-- The hasher keeps the same of an artifact with another length. -/
theorem Hashable.retain_relength (h : artifact.Hashable) (message : Bytes) :
    artifact.relength.pieces.foldl retain message = artifact.pieces.foldl retain message := by
  have hname : artifact.relength.name = artifact.name := rfl
  have hdigest : artifact.relength.digest = artifact.digest := rfl
  unfold pieces
  simp only [List.foldl_cons, List.foldl_nil, hname, hdigest]
  exact retain_lengths _ (length_toBE _ _) (length_toBE _ _) h.length_digest

theorem Hashable.length_relength (h : artifact.Hashable) :
    artifact.relength.pieces.flatten.length = artifact.pieces.flatten.length := by
  rw [flatten_pieces, flatten_pieces, length_frame h, length_frame h.relength]
  rfl

end ArtifactFingerprint

/-- The fingerprinted files in their order, with another length for the first one. -/
def relengthened (artifacts : List ArtifactFingerprint) : List ArtifactFingerprint :=
  match artifacts.insertionSort nameOrder with
  | [] => []
  | first :: rest => first.relength :: rest

theorem map_name_relengthened (artifacts : List ArtifactFingerprint) :
    (relengthened artifacts).map ArtifactFingerprint.name =
      (artifacts.insertionSort nameOrder).map ArtifactFingerprint.name := by
  unfold relengthened
  cases artifacts.insertionSort nameOrder with
  | nil => rfl
  | cons first rest => rfl

theorem sort_relengthened (artifacts : List ArtifactFingerprint) :
    (relengthened artifacts).insertionSort nameOrder = relengthened artifacts := by
  apply List.Pairwise.insertionSort_eq
  have hsorted := List.pairwise_insertionSort nameOrder artifacts
  unfold relengthened
  cases hsort : artifacts.insertionSort nameOrder with
  | nil => exact List.Pairwise.nil
  | cons first rest =>
    rw [hsort, List.pairwise_cons] at hsorted
    exact List.pairwise_cons.mpr ⟨hsorted.1, hsorted.2⟩

theorem mem_relengthened (h : artifact ∈ relengthened artifacts) :
    ∃ source ∈ artifacts, artifact = source ∨ artifact = source.relength := by
  unfold relengthened at h
  cases hsort : artifacts.insertionSort nameOrder with
  | nil =>
    rw [hsort] at h
    exact absurd h List.not_mem_nil
  | cons first rest =>
    have hmem : ∀ source ∈ first :: rest, source ∈ artifacts := by
      intro source hsource
      exact (List.mem_insertionSort nameOrder).mp (hsort ▸ hsource)
    rw [hsort] at h
    rcases List.mem_cons.mp h with heq | hrest
    · exact ⟨first, hmem first List.mem_cons_self, .inr heq⟩
    · exact ⟨artifact, hmem artifact (List.mem_cons_of_mem _ hrest), .inl rfl⟩

namespace Accepted

theorem relengthened (h : Accepted artifacts) : Accepted (relengthened artifacts) := by
  have hsorted := h.perm (List.perm_insertionSort nameOrder artifacts)
  have hnames := map_name_relengthened artifacts
  have hlength := congrArg List.length hnames
  rw [List.length_map, List.length_map] at hlength
  refine ⟨hlength ▸ hsorted.count_le, ?_, hnames ▸ hsorted.nodup, ?_⟩
  · intro artifact hmem
    obtain ⟨source, hsource, heq | heq⟩ := mem_relengthened hmem
    · exact heq ▸ h.safe source hsource
    · exact heq ▸ (h.safe source hsource).relength
  · intro artifact hmem
    obtain ⟨source, hsource, heq | heq⟩ := mem_relengthened hmem
    · exact heq ▸ h.hashable source hsource
    · exact heq ▸ (h.hashable source hsource).relength

/-- The digest does not tell the two apart. -/
theorem digest_relengthened (h : Accepted artifacts) :
    chunkedDigest (inventoryPieces (Historian.relengthened artifacts)) =
      chunkedDigest (inventoryPieces artifacts) := by
  have hlength := h.length_framed
  have hsorted := sort_relengthened artifacts
  rw [← flatten_inventoryPieces] at hlength
  unfold inventoryPieces at hlength ⊢
  rw [hsorted]
  unfold Historian.relengthened
  cases hsort : artifacts.insertionSort nameOrder with
  | nil => rfl
  | cons first rest =>
    have hfirst := h.hashable first ((List.mem_insertionSort nameOrder).mp
      (hsort ▸ List.mem_cons_self))
    rw [hsort] at hlength
    apply chunkedDigest_congr hlength
    · simp only [List.flatMap_cons, List.flatten_append, List.length_append,
        hfirst.length_relength]
    · rw [List.flatMap_cons, List.foldl_append, hfirst.retain_relength, List.flatMap_cons,
        List.foldl_append]

/-- The two differ in the length of the first file. -/
theorem triple_relengthened (h : Accepted artifacts) (hne : artifacts ≠ []) :
    ∃ triple ∈ (Historian.relengthened artifacts).map ArtifactFingerprint.triple,
      triple ∉ artifacts.map ArtifactFingerprint.triple := by
  cases hsort : artifacts.insertionSort nameOrder with
  | nil =>
    have hlength := List.length_insertionSort nameOrder artifacts
    rw [hsort, List.length_nil] at hlength
    exact absurd (List.eq_nil_of_length_eq_zero hlength.symm) hne
  | cons first rest =>
    have hfirst : first ∈ artifacts :=
      (List.mem_insertionSort nameOrder).mp (hsort ▸ List.mem_cons_self)
    refine ⟨first.relength.triple, ?_, ?_⟩
    · unfold Historian.relengthened
      rw [hsort]
      exact List.mem_cons_self
    · intro hmem
      obtain ⟨other, hother, htriple⟩ := List.mem_map.mp hmem
      simp only [ArtifactFingerprint.triple, Prod.mk.injEq] at htriple
      have heq := h.eq_of_name hother hfirst htriple.1
      rw [heq] at htriple
      exact first.relength_ne htriple.2.1.symm

end Accepted

end Historian
