import Historian.InventoryLoss

namespace Historian

open Wire Checks

variable {artifacts other : List ArtifactFingerprint} {fingerprint : InventoryFingerprint}

def lowerHexDigits : Text :=
  ['0', '1', '2', '3', '4', '5', '6', '7', '8', '9', 'a', 'b', 'c', 'd', 'e', 'f']

theorem hexDigit_mem {n : Nat} (h : n < 16) : hexDigit n ∈ lowerHexDigits := by
  have hall : ∀ digit : Fin 16, hexDigit digit.val ∈ lowerHexDigits := by decide
  exact hall ⟨n, h⟩

theorem hex_lower (bytes : Bytes) : ∀ char ∈ hex bytes, char ∈ lowerHexDigits := by
  intro char hchar
  obtain ⟨byte, -, hmem⟩ := List.mem_flatMap.mp hchar
  have hlt := byte.toNat_lt
  rcases List.mem_cons.mp hmem with hhigh | hmem
  · exact hhigh ▸ hexDigit_mem (by omega)
  · exact List.mem_singleton.mp hmem ▸ hexDigit_mem (by omega)

namespace Accepted

theorem pieces_lt (h : Accepted artifacts) : (inventoryPieces artifacts).flatten.length < 2 ^ 61 :=
  flatten_inventoryPieces artifacts ▸ h.length_framed

/-- The concatenation determines what the files are. -/
theorem triples_of_framed (h : Accepted artifacts) (hother : Accepted other)
    (hframed : framed other = framed artifacts) (triple : Text × U64 × Bytes) :
    triple ∈ other.map ArtifactFingerprint.triple ↔
      triple ∈ artifacts.map ArtifactFingerprint.triple := by
  have hsorted := List.perm_insertionSort nameOrder artifacts
  have hsorted' := List.perm_insertionSort nameOrder other
  have heq := frames_inj (hother.perm hsorted').hashable (h.perm hsorted).hashable hframed
  rw [← (hsorted'.map _).mem_iff, heq, (hsorted.map _).mem_iff]

end Accepted

/-- The fingerprint of a list depends on the files of the list alone, and the concatenation of the
frames tells them all. But the blocks that are compressed are those of the concatenation for the
empty list only: with any file there is another inventory, of the same names and contents, which
has another concatenation and the same aggregate. -/
theorem inventory_fingerprint_iff (h : finishFingerprint artifacts = .ok fingerprint) :
    fingerprint.artifacts.Perm artifacts ∧ fingerprint.artifacts.Pairwise nameOrder ∧
    (∀ other, other.Perm artifacts → finishFingerprint other = .ok fingerprint) ∧
    (∀ other fingerprint', finishFingerprint other = .ok fingerprint' →
      framed other = framed artifacts → ∀ triple,
        triple ∈ other.map ArtifactFingerprint.triple ↔
          triple ∈ artifacts.map ArtifactFingerprint.triple) ∧
    (∃ digest, chunkedDigest (inventoryPieces artifacts) = .ok digest ∧
      fingerprint.aggregateSha256 = hex digest ∧ ∀ char ∈ hex digest, char ∈ lowerHexDigits) ∧
    (BlockHasher.stream (fun blocks block => blocks ++ [block]) [] (inventoryPieces artifacts) =
      .ok (Blocks.whole 64 (framed artifacts ++ Fips.padding (framed artifacts).length)) ↔
        artifacts = []) ∧
    (artifacts = [] → fingerprint.aggregateSha256 = hex (Fips.sha256 (framed artifacts))) ∧
    (artifacts ≠ [] → ∃ other fingerprint', finishFingerprint other = .ok fingerprint' ∧
      fingerprint'.aggregateSha256 = fingerprint.aggregateSha256 ∧
      (other.map fun artifact => (artifact.name, artifact.digest)) =
        (fingerprint.artifacts.map fun artifact => (artifact.name, artifact.digest)) ∧
      framed other ≠ framed artifacts ∧
      ∃ triple ∈ other.map ArtifactFingerprint.triple,
        triple ∉ artifacts.map ArtifactFingerprint.triple) := by
  obtain ⟨haccepted, digest, hdigest, rfl⟩ := finishFingerprint_ok.mp h
  have hrecorded := recordedBlocks_iff haccepted.pieces_lt
  rw [flatten_inventoryPieces, completesBlocks_iff haccepted] at hrecorded
  refine ⟨List.perm_insertionSort _ _, List.pairwise_insertionSort _ _, ?_, ?_,
    ⟨digest, hdigest, rfl, hex_lower digest⟩, hrecorded, ?_, ?_⟩
  · intro other hperm
    have hsort := haccepted.sort_eq hperm
    refine finishFingerprint_ok.mpr ⟨haccepted.perm hperm, digest, ?_, ?_⟩
    · rw [hsort]
      exact hdigest
    · rw [hsort]
  · intro other fingerprint' hother hframed
    obtain ⟨hother, -⟩ := finishFingerprint_ok.mp hother
    exact haccepted.triples_of_framed hother hframed
  · intro hnil
    have hcompletes := (completesBlocks_iff haccepted).mpr hnil
    have hkept := (retained_iff [] (inventoryPieces artifacts)).mpr hcompletes
    have hstandard := chunkedDigest_kept haccepted.pieces_lt hkept
    rw [flatten_inventoryPieces] at hstandard
    exact congrArg hex (Except.ok.inj (hdigest.symm.trans hstandard))
  · intro hne
    have hother := haccepted.relengthened
    have hsorted := sort_relengthened artifacts
    have hsame := haccepted.digest_relengthened
    unfold inventoryPieces at hsame
    obtain ⟨triple, hmem, hnot⟩ := haccepted.triple_relengthened hne
    refine ⟨relengthened artifacts, ⟨hex digest, relengthened artifacts⟩,
      finishFingerprint_ok.mpr ⟨hother, digest, hsame.trans hdigest, ?_⟩, rfl, ?_, ?_,
      triple, hmem, hnot⟩
    · rw [hsorted]
    · unfold relengthened
      dsimp only
      cases artifacts.insertionSort nameOrder with
      | nil => rfl
      | cons first rest => rfl
    · intro hframed
      exact hnot ((haccepted.triples_of_framed hother hframed triple).mp hmem)

/-- One file of a given length, with the digest that is all zeros. -/
def singleFile (length : U64) : List ArtifactFingerprint :=
  [⟨['a'], ['F', 'I', 'L', 'E'], length, List.replicate 64 '0'⟩]

/-- The aggregate of a file is not the digest of its frame. -/
theorem aggregate_is_not_canonical : ¬∀ artifacts fingerprint,
    finishFingerprint artifacts = .ok fingerprint →
      fingerprint.aggregateSha256 = hex (Fips.sha256 (framed artifacts)) := by
  intro h
  have hrun : (do
      let fingerprint ← finishFingerprint (singleFile 7)
      let digest ← digest (framed (singleFile 7))
      pure (decide (fingerprint.aggregateSha256 ≠ hex digest))) =
      (.ok true : Except EvidenceError Bool) := by
    decide +kernel
  simp only [bind_ok, pure_ok, decide_eq_true_eq] at hrun
  obtain ⟨fingerprint, hfingerprint, digest, hdigest, hne⟩ := hrun
  rw [digest_standard (by decide), Except.ok.injEq] at hdigest
  rw [h _ _ hfingerprint, hdigest] at hne
  exact hne rfl

/-- Files of seven and of eight bytes have one aggregate, and no digests of the standard collide. -/
theorem aggregate_is_shared : ∃ first second,
    finishFingerprint (singleFile 7) = .ok first ∧ finishFingerprint (singleFile 8) = .ok second ∧
      second.aggregateSha256 = first.aggregateSha256 ∧
      Fips.sha256 (framed (singleFile 7)) ≠ Fips.sha256 (framed (singleFile 8)) := by
  have hrun : (do
      let first ← finishFingerprint (singleFile 7)
      let second ← finishFingerprint (singleFile 8)
      pure (decide (second.aggregateSha256 = first.aggregateSha256))) =
      (.ok true : Except EvidenceError Bool) := by
    decide +kernel
  have hdigests : digest (framed (singleFile 7)) ≠ digest (framed (singleFile 8)) := by
    decide +kernel
  simp only [bind_ok, pure_ok, decide_eq_true_eq] at hrun
  obtain ⟨first, hfirst, second, hsecond, hsame⟩ := hrun
  rw [digest_standard (by decide), digest_standard (by decide)] at hdigests
  refine ⟨first, second, hfirst, hsecond, hsame, ?_⟩
  intro hcollision
  exact hdigests (congrArg Except.ok hcollision)

theorem inventory_fingerprint_iff_sample : ∃ fingerprint,
    finishFingerprint (singleFile 7) = .ok fingerprint ∧
      fingerprint.artifacts.Perm (singleFile 7) := by
  have hrun : (finishFingerprint (singleFile 7)).isOk = true := by decide +kernel
  cases h : finishFingerprint (singleFile 7) with
  | error error =>
    rw [h] at hrun
    exact absurd hrun Bool.false_ne_true
  | ok fingerprint => exact ⟨fingerprint, rfl, (inventory_fingerprint_iff h).1⟩

end Historian
