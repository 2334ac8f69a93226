import Historian.SegmentSource

namespace Historian

open Wire Checks

/-- Frames in the order of their sequences, all above the one before them. -/
def AscendingFrom (prior : Option U64) (frames : List SourceFrame) : Prop :=
  Ascending frames ∧ ∀ before ∈ prior, ∀ frame ∈ frames, before < frame.appendSequence

theorem ascendingFrom_none {frames : List SourceFrame} :
    AscendingFrom none frames ↔ Ascending frames := by
  simp [AscendingFrom]

theorem ascendingFrom_cons {prior : Option U64} {frame : SourceFrame} {rest : List SourceFrame} :
    AscendingFrom prior (frame :: rest) ↔
      prior.any (frame.appendSequence ≤ ·) = false ∧
        AscendingFrom (some frame.appendSequence) rest := by
  have hany : prior.any (frame.appendSequence ≤ ·) = false ↔
      ∀ before ∈ prior, before < frame.appendSequence := by
    cases prior <;> simp
  rw [hany]
  unfold AscendingFrom
  constructor
  · intro h
    obtain ⟨hascending, habove⟩ := h
    obtain ⟨hfirst, hrest⟩ := List.pairwise_cons.mp hascending
    refine ⟨fun before hbefore => habove before hbefore frame List.mem_cons_self, hrest, ?_⟩
    intro before hbefore other hother
    rw [Option.mem_some_iff] at hbefore
    rw [← hbefore]
    exact hfirst other hother
  · intro h
    obtain ⟨hprior, hrest, hfirst⟩ := h
    have hbehind := hfirst frame.appendSequence rfl
    refine ⟨List.pairwise_cons.mpr ⟨hbehind, hrest⟩, ?_⟩
    intro before hbefore other hother
    rcases List.mem_cons.mp hother with rfl | hother
    · exact hprior before hbefore
    · exact Fin.lt_trans (hprior before hbefore) (hbehind other hother)

theorem framesLength_cons (frame : SourceFrame) (rest : List SourceFrame) :
    framesLength (frame :: rest) = frame.bytes.length + framesLength rest := by
  rw [framesLength, List.map_cons, List.sum_cons, ← framesLength]

theorem framesBytes_cons (frame : SourceFrame) (rest : List SourceFrame) :
    framesBytes (frame :: rest) = frame.bytes ++ framesBytes rest := by
  rw [framesBytes, List.flatMap_cons, ← framesBytes]

/-- A field behind a field of known length. -/
theorem slice_append_iff {bytes a b : Bytes} {start n m : Nat} (ha : a.length = n)
    (h : start + n ≤ bytes.length) : slice bytes start (n + m) = a ++ b ↔
      slice bytes start n = a ∧ slice bytes (start + n) m = b := by
  have hfirst : (slice bytes start n).length = a.length := by rw [length_slice h, ha]
  rw [slice_add]
  constructor
  · intro heq
    exact List.append_inj heq hfirst
  · intro heq
    rw [heq.1, heq.2]

/-- A walk over a block finds the frames that the block is made of. -/
theorem walkFrames_ok {bytes : Bytes} {storeId : StoreId} {seriesId : SeriesId}
    {blockEnd remaining ordinal offset : Nat} {prior : Option U64} {walk : BlockWalk}
    (hoffset : offset ≤ blockEnd) (hend : blockEnd ≤ bytes.length) :
    walkFrames bytes storeId seriesId blockEnd remaining ordinal offset prior = .ok walk ↔
      ∃ frames : List SourceFrame, frames.length = remaining ∧
        offset + framesLength frames ≤ blockEnd ∧
        slice bytes offset (framesLength frames) = framesBytes frames ∧
        (∀ frame ∈ frames, frame.Holds storeId ∧ frame.seriesId = seriesId) ∧
        AscendingFrom prior frames ∧
        walk = ⟨(locateFrames seriesId offset ordinal frames).map (·.1),
          (locateFrames seriesId offset ordinal frames).flatMap locateObservations,
          offset + framesLength frames⟩ := by
  induction remaining generalizing ordinal offset prior walk with
  | zero =>
    simp only [walkFrames, pure_ok]
    constructor
    · intro h
      exact ⟨[], rfl, hoffset, by simp [slice, framesLength, framesBytes], by simp,
        ⟨List.Pairwise.nil, by simp⟩, h.symm⟩
    · intro h
      obtain ⟨frames, hlength, -, -, -, -, rfl⟩ := h
      obtain rfl := List.eq_nil_of_length_eq_zero hlength
      rfl
  | succ remaining ih =>
    unfold walkFrames
    simp only [bind_ok, exists_unit, refuse_ok, mapError_ok, pure_ok, not_or, not_not, Nat.not_lt,
      Bool.not_eq_true]
    constructor
    · intro h
      obtain ⟨-, frameLength, -, ⟨hbytes, hblock⟩, decoded, hdecode, ⟨hstore, hdeclared, hseries, -,
        -, hprior⟩, canonical, -, -, behind, hwalk, rfl⟩ := h
      have hframe : (slice bytes offset frameLength).length = frameLength := length_slice hbytes
      rw [ih hblock] at hwalk
      obtain ⟨rest, hlength, hle, hslice, hholds, hascending, rfl⟩ := hwalk
      have htotal : framesLength (⟨slice bytes offset frameLength, decoded⟩ :: rest) =
          frameLength + framesLength rest := by
        rw [framesLength_cons, hframe]
      refine ⟨⟨slice bytes offset frameLength, decoded⟩ :: rest, by rw [List.length_cons, hlength],
        by omega, ?_, ?_, ascendingFrom_cons.mpr ⟨hprior, hascending⟩, ?_⟩
      · rw [htotal, slice_add, hslice, framesBytes_cons]
      · intro frame hmem
        rcases List.mem_cons.mp hmem with rfl | hmem
        · exact ⟨⟨hdecode, hstore⟩, hseries⟩
        · exact hholds frame hmem
      · rw [htotal, locateFrames, hframe, ← Nat.add_assoc]
        rfl
    · intro h
      obtain ⟨frames, hlength, hle, hslice, hholds, hascending, rfl⟩ := h
      cases frames with
      | nil => cases hlength
      | cons frame rest =>
        obtain ⟨hframe, hseries⟩ := hholds frame List.mem_cons_self
        obtain ⟨hprior, hbehind⟩ := ascendingFrom_cons.mp hascending
        have hpos := hframe.length_pos
        rw [framesLength_cons] at hle
        rw [framesLength_cons, framesBytes_cons, slice_append_iff rfl (by omega)] at hslice
        obtain ⟨hown, hrest⟩ := hslice
        rw [List.length_cons, Nat.add_right_cancel_iff] at hlength
        have hfront : slice bytes offset journalV1FramePrefixLen =
            slice frame.bytes 0 journalV1FramePrefixLen := by
          rw [← hown, slice_slice (by omega), Nat.add_zero]
        have hlen := frameLen_of_decode hframe.decodes []
        rw [List.append_nil] at hlen
        have hwalk : walkFrames bytes storeId seriesId blockEnd remaining (ordinal + 1)
            (offset + frame.bytes.length) (some frame.appendSequence) = .ok
            ⟨(locateFrames seriesId (offset + frame.bytes.length) (ordinal + 1) rest).map (·.1),
              (locateFrames seriesId (offset + frame.bytes.length) (ordinal + 1) rest).flatMap
                locateObservations, offset + frame.bytes.length + framesLength rest⟩ :=
          (ih (by omega)).mpr ⟨rest, hlength, by omega, hrest,
            fun other hother => hholds other (List.mem_cons_of_mem _ hother), hbehind, rfl⟩
        refine ⟨⟨by omega, by omega⟩, frame.bytes.length, ?_, ⟨by omega, by omega⟩,
          frame.admission, ?_, ⟨hframe.store, hframe.declared, hseries, ?_, ?_, hprior⟩,
          frame.bytes, hframe.encodes, hown.symm, _, hwalk, ?_⟩
        · rw [hfront]
          exact hlen
        · rw [hown]
          exact hframe.decodes
        · rw [hframe.series.1, hseries]
        · rw [hframe.series.2, hseries]
        · rw [hown, framesLength_cons, ← Nat.add_assoc]
          rfl

end Historian
