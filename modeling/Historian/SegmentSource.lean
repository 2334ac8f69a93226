import Historian.SegmentGroups
import Historian.SegmentHeaders
import Historian.ActiveRoot

namespace Historian

open Wire Checks

/-- A frame whose bytes are those of its record, in a store. -/
structure SourceFrame.Holds (frame : SourceFrame) (storeId : StoreId) : Prop where
  decodes : decodeAdmissionFrameV1 frame.bytes .maximum none = .ok frame.admission
  store : frame.admission.storeId = storeId

/-- Every frame behind the one before it. -/
def FollowsFrom : Option AppendSequenceV1 → List SourceFrame → Prop
  | _, [] => True
  | previous, frame :: rest =>
    (∀ before ∈ previous, before.value.val + 1 = frame.appendSequence.val) ∧
      FollowsFrom (floorSequence frame.appendSequence) rest

def sequenceAfter : Option AppendSequenceV1 → List SourceFrame → Option AppendSequenceV1
  | previous, [] => previous
  | _, frame :: rest => sequenceAfter (floorSequence frame.appendSequence) rest

/-- Frames numbered on from a floor without a hole. -/
def FramesInOrder : U64 → List SourceFrame → Prop
  | _, [] => True
  | floor, frame :: rest =>
    floor.val + 1 = frame.appendSequence.val ∧ FramesInOrder frame.appendSequence rest

def framesBytes (frames : List SourceFrame) : Bytes := frames.flatMap (·.bytes)

theorem length_framesBytes (frames : List SourceFrame) :
    (framesBytes frames).length = framesLength frames := by
  rw [framesBytes, framesLength, List.length_flatMap]

namespace SourceFrame.Holds

variable {frame : SourceFrame} {storeId : StoreId} (h : frame.Holds storeId)

include h

theorem declared : frame.admission.declaration.storeId = storeId := by
  rw [← storeId_of_decode h.decodes, h.store]

theorem encodes : encodeDecodedAdmissionFrameV1 frame.admission = .ok frame.bytes :=
  encode_of_decode_frame h.decodes

/-- An accepted record names one series throughout. -/
theorem series : frame.admission.envelope.series.seriesId = frame.seriesId ∧
    frame.admission.retry.seriesId = frame.seriesId := by
  obtain ⟨-, -, -, -, -, -, hvalid⟩ := decodeAdmissionFrameV1_ok.mp h.decodes
  unfold validateDecoded at hvalid
  simp only [then_ok, refuse_ok, not_or, not_not] at hvalid
  obtain ⟨⟨-, hseries, -, -, hretry, -⟩, -⟩ := hvalid
  exact ⟨hseries.symm, hretry.trans hseries.symm⟩

theorem sequence : ∃ sequence : AppendSequenceV1, frame.appendSequence = sequence.value := by
  obtain ⟨sequence, hsequence, -⟩ := sequence_of_decode h.decodes
  exact ⟨sequence, hsequence⟩

theorem length_pos : journalV1FramePrefixLen < frame.bytes.length := by
  have hlen := length_of_decode h.decodes
  simp only [journalV1FramePrefixLen, journalV1FrameCrcLen] at hlen ⊢
  omega

end SourceFrame.Holds

theorem sequenceAfter_eq {previous : Option AppendSequenceV1} {frames : List SourceFrame} :
    sequenceAfter previous frames =
      (frames.getLast?.map fun frame => floorSequence frame.appendSequence).getD previous := by
  induction frames generalizing previous with
  | nil => rfl
  | cons frame rest ih =>
    rw [sequenceAfter, ih]
    cases rest with
    | nil => rfl
    | cons next rest => simp [List.getLast?_cons]

/-- The loop over the source finds the frames that the source is made of. -/
theorem scanSourceFrames_ok {storeId : StoreId} {expected observationCount : Nat}
    {previous last : Option AppendSequenceV1} {source : Bytes} {frames : List SourceFrame}
    (hcount : observationCount ≤ maxSegmentV1Observations) :
    scanSourceFrames storeId expected observationCount previous source = .ok (frames, last) ↔
      source = framesBytes frames ∧ frames.length ≤ expected ∧
      (∀ frame ∈ frames, frame.Holds storeId) ∧ FollowsFrom previous frames ∧
      observationCount + observationTotal frames ≤ maxSegmentV1Observations ∧
      last = sequenceAfter previous frames := by
  induction expected generalizing observationCount previous source frames with
  | zero =>
    simp only [scanSourceFrames, then_ok, refuse_ok, pure_ok, not_not, Prod.mk.injEq]
    constructor
    · intro h
      obtain ⟨rfl, rfl, rfl⟩ := h
      exact ⟨rfl, Nat.le_refl 0, by simp, trivial, hcount, rfl⟩
    · intro h
      obtain ⟨hsource, hlength, -, -, -, hlast⟩ := h
      obtain rfl := List.eq_nil_of_length_eq_zero (Nat.le_zero.mp hlength)
      exact ⟨hsource, rfl, hlast.symm⟩
  | succ expected ih =>
    unfold scanSourceFrames
    by_cases hnil : source = []
    · rw [if_pos hnil]
      simp only [pure_ok, Prod.mk.injEq]
      constructor
      · intro h
        obtain ⟨rfl, rfl⟩ := h
        exact ⟨hnil, Nat.zero_le _, by simp, trivial, hcount, rfl⟩
      · intro h
        obtain ⟨hsource, -, hholds, -, -, hlast⟩ := h
        cases frames with
        | nil => exact ⟨rfl, hlast.symm⟩
        | cons frame rest =>
          have hpos := (hholds frame List.mem_cons_self).length_pos
          have hlen := congrArg List.length hsource
          rw [hnil, length_framesBytes, framesLength, List.map_cons, List.sum_cons,
            List.length_nil] at hlen
          omega
    · rw [if_neg hnil]
      simp only [bind_ok, exists_unit, refuse_ok, mapError_ok, pure_ok, not_or, not_not, Nat.not_lt,
        Prod.exists, Prod.mk.injEq, AppendSequenceV1.new_ok]
      constructor
      · intro h
        obtain ⟨-, frameLength, -, hlen, decoded, hdecode, ⟨hstore, hdeclared⟩, -, canonical, -, -,
          hbound, sequence, hsequence, rest, last', hrest, rfl, rfl⟩ := h
        obtain ⟨hframe, hsplit⟩ := front_frame hlen
        rw [ih hbound] at hrest
        obtain ⟨hsource, hlength, hholds, hfollows, htotal, hlast⟩ := hrest
        have hown : decodeAdmissionFrameV1 (slice source 0 frameLength) .maximum none =
            .ok decoded := decode_behind hdecode (by simp)
        obtain ⟨-, -, -, hprevious⟩ := sequence_of_decode hdecode
        have hafter : floorSequence decoded.appendSequence = some sequence := by
          rw [hsequence, floorSequence_value]
        have hnext : ∀ before ∈ previous,
            before.value.val + 1 = decoded.appendSequence.val := by
          obtain ⟨own, hownsequence, -, hfollow⟩ := sequence_of_decode hdecode
          rw [hownsequence]
          exact hfollow
        refine ⟨?_, ?_, ?_, ⟨hnext, ?_⟩, ?_, ?_⟩
        · rw [framesBytes, List.flatMap_cons, ← framesBytes, ← hsource]
          exact hsplit
        · rw [List.length_cons]
          omega
        · intro frame hmem
          rcases List.mem_cons.mp hmem with rfl | hmem
          · exact ⟨hown, hstore⟩
          · exact hholds frame hmem
        · change FollowsFrom (floorSequence decoded.appendSequence) rest
          rw [hafter]
          exact hfollows
        · rw [observationTotal, List.map_cons, List.sum_cons, ← observationTotal]
          dsimp only
          omega
        · rw [sequenceAfter, SourceFrame.appendSequence, hafter]
          exact hlast
      · intro h
        obtain ⟨hsource, hlength, hholds, hfollows, htotal, hlast⟩ := h
        cases frames with
        | nil => exact absurd hsource hnil
        | cons frame rest =>
          have hframe := hholds frame List.mem_cons_self
          have hpos := hframe.length_pos
          obtain ⟨sequence, hsequence⟩ := hframe.sequence
          rw [framesBytes, List.flatMap_cons, ← framesBytes] at hsource
          have hdecode : decodeAdmissionFrameV1 frame.bytes .maximum previous =
              .ok frame.admission := decode_behind hframe.decodes hfollows.1
          have hfront : slice source 0 frame.bytes.length = frame.bytes := by
            rw [hsource]
            exact slice_head rfl
          rw [observationTotal, List.map_cons, List.sum_cons, ← observationTotal] at htotal
          rw [List.length_cons] at hlength
          have hrest : scanSourceFrames storeId expected
              (observationCount + frame.admission.envelope.observations.length) (some sequence)
              (framesBytes rest) = .ok (rest, last) := by
            rw [ih (by omega)]
            refine ⟨rfl, by omega, fun other hother => hholds other (List.mem_cons_of_mem _ hother),
              ?_, by omega, ?_⟩
            · rw [← floorSequence_value sequence, ← hsequence]
              exact hfollows.2
            · rw [← floorSequence_value sequence, ← hsequence]
              exact hlast
          refine ⟨?_, frame.bytes.length, ?_, ?_, frame.admission, ?_, ⟨hframe.store,
            hframe.declared⟩, hframe.series, frame.bytes, hframe.encodes, hfront.symm, by omega,
            sequence, hsequence, rest, last, ?_, ?_⟩
          · rw [hsource, List.length_append]
            omega
          · rw [hsource]
            exact frameLen_of_decode hframe.decodes _
          · rw [hsource, List.length_append]
            omega
          · rw [hfront]
            exact hdecode
          · rw [hsource, List.drop_left]
            exact hrest
          · rw [hfront]
            exact ⟨rfl, rfl⟩

theorem FollowsFrom.consecutive {floor : U64} {frames : List SourceFrame}
    (hpos : 0 < floor.val) (h : FollowsFrom (floorSequence floor) frames) :
    FramesInOrder floor frames := by
  induction frames generalizing floor with
  | nil => trivial
  | cons frame rest ih =>
    obtain ⟨hfirst, hrest⟩ := h
    have hsome : floorSequence floor = some ⟨floor, hpos⟩ := by
      unfold floorSequence
      rw [dif_pos hpos]
    have hnext := hfirst ⟨floor, hpos⟩ hsome
    exact ⟨hnext, ih (by rw [← hnext]; omega) hrest⟩

theorem FramesInOrder.followsFrom {floor : U64} {frames : List SourceFrame}
    (h : FramesInOrder floor frames) : FollowsFrom (floorSequence floor) frames := by
  induction frames generalizing floor with
  | nil => trivial
  | cons frame rest ih =>
    obtain ⟨hfirst, hrest⟩ := h
    refine ⟨?_, ih hrest⟩
    intro before hbefore
    rw [mem_floorSequence hbefore]
    exact hfirst

/-- The last of consecutive sequences counts the frames. -/
theorem FramesInOrder.last {floor : U64} {frames : List SourceFrame}
    (h : FramesInOrder floor frames) :
    (sequenceAfter (floorSequence floor) frames).map (·.value) = none ∧
      floor.val + frames.length = 0
      ∨ ∃ sequence, sequenceAfter (floorSequence floor) frames = some sequence ∧
        sequence.value.val = floor.val + frames.length := by
  induction frames generalizing floor with
  | nil =>
    by_cases hpos : 0 < floor.val
    · exact Or.inr ⟨⟨floor, hpos⟩, by simp [sequenceAfter, floorSequence, hpos], rfl⟩
    · refine Or.inl ⟨by simp [sequenceAfter, floorSequence, hpos], ?_⟩
      rw [List.length_nil]
      omega
  | cons frame rest ih =>
    obtain ⟨hfirst, hrest⟩ := h
    rcases ih hrest with ⟨-, hzero⟩ | ⟨sequence, hsequence, hval⟩
    · omega
    · refine Or.inr ⟨sequence, hsequence, ?_⟩
      rw [List.length_cons]
      omega

/-- A source that reaches its cutoff with as many frames as there are sequences above its floor
starts right above it. -/
theorem consecutive_iff {floor cutoff : U64} {frames : List SourceFrame} {storeId : StoreId}
    (hholds : ∀ frame ∈ frames, frame.Holds storeId)
    (hlength : cutoff.val - floor.val = frames.length) (hlt : floor < cutoff) :
    FollowsFrom (floorSequence floor) frames ∧
        (sequenceAfter (floorSequence floor) frames).map (·.value) = some cutoff ↔
      FramesInOrder floor frames := by
  rw [Fin.lt_def] at hlt
  constructor
  · intro h
    obtain ⟨hfollows, hlast⟩ := h
    by_cases hpos : 0 < floor.val
    · exact hfollows.consecutive hpos
    · cases frames with
      | nil => trivial
      | cons frame rest =>
        obtain ⟨own, hown⟩ := (hholds frame List.mem_cons_self).sequence
        have hownpos := own.positive
        rw [← hown] at hownpos
        have hrest := hfollows.2.consecutive hownpos
        refine ⟨?_, hrest⟩
        rcases hrest.last with ⟨-, hzero⟩ | ⟨sequence, hsequence, hval⟩
        · omega
        · rw [sequenceAfter, hsequence, Option.map_some, Option.some.injEq] at hlast
          rw [hlast] at hval
          rw [List.length_cons] at hlength
          omega
  · intro h
    refine ⟨h.followsFrom, ?_⟩
    rcases h.last with ⟨-, hzero⟩ | ⟨sequence, hsequence, hval⟩
    · omega
    · rw [hsequence, Option.map_some, Option.some.injEq]
      apply Fin.ext
      omega

theorem FramesInOrder.ascending {floor : U64} {frames : List SourceFrame}
    (h : FramesInOrder floor frames) : Ascending frames ∧
      ∀ frame ∈ frames, floor < frame.appendSequence := by
  induction frames generalizing floor with
  | nil => exact ⟨List.Pairwise.nil, by simp⟩
  | cons frame rest ih =>
    obtain ⟨hfirst, hrest⟩ := h
    obtain ⟨hascending, habove⟩ := ih hrest
    have hlt : floor < frame.appendSequence := by
      rw [Fin.lt_def]
      omega
    refine ⟨List.pairwise_cons.mpr ⟨habove, hascending⟩, ?_⟩
    intro other hother
    rcases List.mem_cons.mp hother with rfl | hother
    · exact hlt
    · exact Fin.lt_trans hlt (habove other hother)

/-- The frames of a sealed generation, whole and in their order. -/
structure SealedSource (storeId : StoreId) (sealed : SealedGeneration)
    (frames : List SourceFrame) : Prop where
  sealable : sealed.Sealable frames.length
  count_le : frames.length ≤ maxActiveJournalRecords
  holds : ∀ frame ∈ frames, frame.Holds storeId
  consecutive : FramesInOrder sealed.sequenceFloor frames
  observations_le : observationTotal frames ≤ maxSegmentV1Observations
  length_eq : sealed.artifactLength.val = journalV1HeaderLen + framesLength frames
  checksum : crc32c (encodeHeader storeId ++ framesBytes frames) = sealed.artifactChecksum

/-- The last frame of a sealed source carries its cutoff. -/
theorem SealedSource.last {storeId : StoreId} {sealed : SealedGeneration}
    {frames : List SourceFrame} (h : SealedSource storeId sealed frames) :
    frames.getLast?.map (·.appendSequence) = some sealed.sequenceCutoff := by
  have hcounted := h.sealable.counted
  have hnonempty := h.sealable.nonempty
  have hlast := ((consecutive_iff h.holds hcounted hnonempty).mpr h.consecutive).2
  rw [Fin.lt_def] at hnonempty
  rw [sequenceAfter_eq] at hlast
  cases hframe : frames.getLast? with
  | none =>
    rw [List.getLast?_eq_none_iff] at hframe
    rw [hframe, List.length_nil] at hcounted
    omega
  | some frame =>
    rw [hframe, Option.map_some, Option.getD_some, Option.map_eq_some_iff] at hlast
    obtain ⟨sequence, hsequence, hvalue⟩ := hlast
    rw [Option.map_some, floorSequence_eq_some.mp hsequence, hvalue]

/-- A source is accepted exactly when it is the header of its store and the frames that its sealed
record counts. -/
theorem scanSource_ok {storeId : StoreId} {sealed : SealedGeneration} {source : Bytes}
    {frames : List SourceFrame} : scanSource storeId sealed source = .ok frames ↔
      SealedSource storeId sealed frames ∧ source = encodeHeader storeId ++ framesBytes frames := by
  unfold scanSource
  simp only [bind_ok, exists_unit, refuse_ok, mapError_ok, pure_ok, not_or, not_not, Nat.not_lt,
    Nat.not_le, Fin.not_le, Prod.exists]
  constructor
  · intro h
    obtain ⟨hmax, ⟨hgen, hreg, hlt, hend, hlen, hnonempty, hcrc⟩, ⟨-, hrecords⟩, store, hheader,
      rfl,
      found, last, hscan, ⟨hcount, hlast⟩, rfl⟩ := h
    have h28 : journalV1HeaderLen ≤ source.length := by
      rw [hend] at hnonempty
      omega
    rw [decodeHeader_ok] at hheader
    rw [scanSourceFrames_ok (Nat.zero_le _)] at hscan
    obtain ⟨hsource, -, hholds, hfollows, htotal, hafter⟩ := hscan
    have hsplit : source = encodeHeader store ++ framesBytes found := by
      rw [← hheader, ← hsource]
      simp [slice]
    rw [hafter] at hlast
    refine ⟨⟨⟨hgen, hreg, hlt, hend, hnonempty, by omega, hcount.symm⟩, by omega, hholds,
      (consecutive_iff hholds hcount.symm hlt).mp ⟨hfollows, hlast⟩, by omega, ?_, ?_⟩, hsplit⟩
    · rw [hlen, hsplit, List.length_append, length_encodeHeader, length_framesBytes]
    · rw [← hsplit]
      exact hcrc
  · intro h
    obtain ⟨hsealed, rfl⟩ := h
    have hlength : (encodeHeader storeId ++ framesBytes frames).length =
        sealed.artifactLength.val := by
      rw [List.length_append, length_encodeHeader, length_framesBytes, hsealed.length_eq]
    have hcounted := hsealed.sealable.counted
    have hlt := hsealed.sealable.nonempty
    have hfollows := (consecutive_iff hsealed.holds hcounted hlt).mpr hsealed.consecutive
    have hrecords := hsealed.count_le
    rw [Fin.lt_def] at hlt
    refine ⟨hlength ▸ hsealed.sealable.length_le, ⟨hsealed.sealable.journal,
      hsealed.sealable.registry, hsealed.sealable.nonempty, hsealed.sealable.whole, hlength.symm,
      hsealed.sealable.header_lt, hsealed.checksum⟩, ⟨by omega, by omega⟩, storeId, ?_, rfl, frames,
      sequenceAfter (floorSequence sealed.sequenceFloor) frames, ?_, ⟨hcounted.symm, hfollows.2⟩,
      rfl⟩
    · rw [decodeHeader_ok, slice_head (length_encodeHeader storeId)]
    · rw [scanSourceFrames_ok (Nat.zero_le _), ← length_encodeHeader storeId, List.drop_left]
      exact ⟨rfl, by omega, hsealed.holds, hfollows.1, by have := hsealed.observations_le; omega,
        rfl⟩

end Historian
