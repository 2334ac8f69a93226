import Historian.MachineBuild
import Historian.MachineParsed

namespace Historian.MachineSegment

open Wire Checks Machine MachineFrame

/-- A frame at an offset of the source. -/
def placedFrame (offset : Nat) (frame : SourceFrame) : PlacedFrame :=
  ⟨frame.seriesId, frame.appendSequence, offset, frame.bytes.length, frame.observations⟩

/-- Frames one behind the other from an offset on. -/
def placeFrames : Nat → List SourceFrame → List PlacedFrame
  | _, [] => []
  | offset, frame :: rest =>
    placedFrame offset frame :: placeFrames (offset + frame.bytes.length) rest

theorem length_placeFrames (offset : Nat) (frames : List SourceFrame) :
    (placeFrames offset frames).length = frames.length := by
  induction frames generalizing offset with
  | nil => rfl
  | cons frame rest ih => rw [placeFrames, List.length_cons, List.length_cons, ih]

theorem length_frameObservations (frame : SourceFrame) :
    frame.observations.length = frame.admission.envelope.observations.length := by
  simp [SourceFrame.observations]

theorem sum_placeFrames (offset : Nat) (frames : List SourceFrame) :
    ((placeFrames offset frames).map (·.observations.length)).sum = observationTotal frames := by
  induction frames generalizing offset with
  | nil => rfl
  | cons frame rest ih =>
    simp only [placeFrames, List.map_cons, List.sum_cons, ih, observationTotal, placedFrame,
      length_frameObservations]

theorem slice_drop (bytes : Bytes) (offset len : Nat) :
    slice (bytes.drop offset) 0 len = slice bytes offset len := by
  unfold slice
  rw [List.drop_zero]

theorem rangeOr_eq {bytes : Bytes} {start len : Nat} {error : SegmentV1Error}
    (h : start + len ≤ bytes.length) :
    rangeOr error bytes start (start + len) = pure (slice bytes start len) := by
  unfold rangeOr
  rw [if_pos ⟨by omega, h⟩, Nat.add_sub_cancel_left]
  rfl

/-- A checked range of the source, read from what is left of it. -/
theorem simulates_sourceRange {source : Bytes} {offset len : Nat} {α β : Type}
    {related : α → β → Prop} (hoffset : offset ≤ source.length)
    {next : Bytes → Run SegmentV1Error α} {next' : Unit → Except SegmentV1Error β}
    (h : offset + len ≤ source.length → Simulates related (next (slice source offset len))
      (next' ())) :
    Simulates related (rangeOr .invalidSource source offset (offset + len) >>= next)
      (refuse ((source.drop offset).length < len) .invalidSource >>= next') := by
  have hdrop : (source.drop offset).length = source.length - offset := List.length_drop
  by_cases hlen : offset + len ≤ source.length
  · rw [rangeOr_eq hlen]
    have hgo : refuse ((source.drop offset).length < len) SegmentV1Error.invalidSource = .ok () :=
      if_neg (by omega)
    rw [hgo]
    exact h hlen
  · have hstop : rangeOr SegmentV1Error.invalidSource source offset (offset + len) =
        .error (.refused .invalidSource) := if_neg fun hboth => hlen hboth.2
    have hrefuse : refuse ((source.drop offset).length < len) SegmentV1Error.invalidSource =
        .error .invalidSource := if_pos (by omega)
    rw [hstop, hrefuse]
    exact Simulates.refused _

theorem simulates_scanSourceFrames {source : Bytes} {storeId : StoreId}
    (hsource : source.length ≤ maxActiveJournalBytes) {expected observationCount : Nat}
    {previous : Option AppendSequenceV1} {offset : Nat} (hoffset : offset ≤ source.length)
    (hcount : observationCount ≤ maxSegmentV1Observations) :
    Simulates (fun placed scanned => placed.1 = placeFrames offset scanned.1 ∧
        placed.2 = scanned.2)
      (scanSourceFrames source storeId expected observationCount previous offset)
      (Historian.scanSourceFrames storeId expected observationCount previous
        (source.drop offset)) := by
  have hmax : maxActiveJournalBytes < 2 ^ 32 := by decide
  have hobserved : maxSegmentV1Observations < 2 ^ 32 := by decide
  have hword : wordSize = 2 ^ 64 := rfl
  have hprefix : journalV1FramePrefixLen = 20 := rfl
  have h256 : maxObservations = 256 := rfl
  have hend : source.drop offset = [] ↔ ¬offset ≠ source.length := by
    rw [List.drop_eq_nil_iff]
    omega
  induction expected generalizing observationCount previous offset with
  | zero =>
    unfold scanSourceFrames Historian.scanSourceFrames
    refine Simulates.agreed (Agrees.refuseIf ?_) fun _ _ => Simulates.ok ⟨rfl, rfl⟩
    rw [ne_eq (source.drop offset), hend, not_not]
  | succ expected ih =>
    unfold scanSourceFrames Historian.scanSourceFrames
    by_cases hdone : offset = source.length
    · rw [if_pos (by omega), if_pos (hend.mpr (not_not.mpr hdone))]
      have hgo : (refuseIf (offset ≠ source.length) SegmentV1Error.invalidSource) = pure () :=
        if_neg (not_not.mpr hdone)
      exact Simulates.step hgo (Simulates.ok ⟨rfl, rfl⟩)
    rw [if_neg (by omega), if_neg (fun hnil => hend.mp hnil hdone)]
    refine Simulates.step (addOr_eq (by omega)) ?_
    refine simulates_sourceRange hoffset fun hhead => ?_
    rw [slice_drop]
    refine Simulates.agreed ((agrees_frameLenFromPrefixV1 _ _).mapRefusal _)
      fun frameLength hlength => ?_
    rw [mapError_ok] at hlength
    have hframeLength := frameLenFromPrefixV1_le hlength
    refine Simulates.step (addOr_eq (by omega)) ?_
    refine simulates_sourceRange hoffset fun hframe => ?_
    rw [slice_drop]
    refine Simulates.agreed ((agrees_decodeAdmissionFrameV1 _ _ _).mapRefusal _)
      fun decoded _ => ?_
    refine Simulates.agreed (Agrees.refuseIf Iff.rfl) fun _ _ => ?_
    refine Simulates.agreed (Agrees.refuseIf Iff.rfl) fun _ _ => ?_
    refine Simulates.agreed ((agrees_encodeDecodedAdmissionFrameV1 _).mapRefusal _)
      fun canonical _ => ?_
    refine Simulates.agreed (Agrees.refuseIf Iff.rfl) fun _ _ => ?_
    have hcontexts := decoded.envelope.lengths_le.1
    have hobservations := length_frameObservations ⟨slice source offset frameLength, decoded⟩
    dsimp only at hobservations ⊢
    rw [hobservations]
    have hordinals : (refuseIf (2 ^ 32 < decoded.envelope.observations.length)
        SegmentV1Error.bounds) = pure () := if_neg (by omega)
    refine Simulates.step hordinals ?_
    refine Simulates.step (addOr_eq (by omega)) ?_
    refine Simulates.agreed (Agrees.refuseIf Iff.rfl) fun _ htotal => ?_
    rw [refuse_ok, Nat.not_lt] at htotal
    refine Simulates.agreed (Agrees.lift _) fun sequence _ => ?_
    rw [List.drop_drop]
    have hnext : source.drop (offset + frameLength) = [] ↔
        ¬offset + frameLength ≠ source.length := by
      rw [List.drop_eq_nil_iff]
      omega
    refine Simulates.bind (ih hframe htotal hnext) fun placed scanned hplaced _ => ?_
    obtain ⟨placed, last⟩ := placed
    obtain ⟨scanned, last'⟩ := scanned
    obtain ⟨hplaced, hlast⟩ := hplaced
    dsimp only at hplaced hlast
    have hlen : (slice source offset frameLength).length = frameLength := length_slice hframe
    refine Simulates.ok ⟨?_, hlast⟩
    simp only [placeFrames, placedFrame, hlen, hplaced]
    rfl

theorem simulates_scanSource (storeId : StoreId) (sealed : SealedGeneration) (source : Bytes) :
    Simulates (fun placed frames => placed = placeFrames journalV1HeaderLen frames)
      (scanSource storeId sealed source) (Historian.scanSource storeId sealed source) := by
  unfold scanSource Historian.scanSource
  refine Simulates.agreed (Agrees.refuseIf Iff.rfl) fun _ hsource => ?_
  refine Simulates.agreed (Agrees.refuseIf Iff.rfl) fun _ hmetadata => ?_
  rw [refuse_ok] at hsource hmetadata
  simp only [not_or, not_not, Nat.not_le, Fin.not_le] at hmetadata
  obtain ⟨-, -, hordered, hend, hlen, hnonempty, -⟩ := hmetadata
  have hlt : sealed.sequenceFloor.val < sealed.sequenceCutoff.val := hordered
  have hheader : journalV1HeaderLen ≤ source.length := by
    rw [← hlen, ← hend]
    omega
  refine Simulates.step (subOr_eq (by omega)) ?_
  refine Simulates.agreed (Agrees.refuseIf Iff.rfl) fun _ _ => ?_
  have hread : rangeOr SegmentV1Error.invalidSource source 0 journalV1HeaderLen =
      pure (slice source 0 journalV1HeaderLen) := by
    unfold rangeOr
    rw [if_pos ⟨Nat.zero_le _, hheader⟩]
    rfl
  refine Simulates.step hread ?_
  refine Simulates.agreed (Agrees.lift _) fun decoded _ => ?_
  refine Simulates.agreed (Agrees.refuseIf Iff.rfl) fun _ _ => ?_
  refine Simulates.bind (simulates_scanSourceFrames (Nat.not_lt.mp hsource) hheader (Nat.zero_le _))
    fun placed scanned hplaced _ => ?_
  obtain ⟨placed, last⟩ := placed
  obtain ⟨scanned, last'⟩ := scanned
  obtain ⟨hplaced, hlast⟩ := hplaced
  dsimp only at hplaced hlast ⊢
  subst hplaced hlast
  rw [length_placeFrames]
  exact Simulates.agreed (Agrees.refuseIf Iff.rfl) fun _ _ => Simulates.ok rfl

end Historian.MachineSegment
