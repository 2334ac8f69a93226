import Historian.SegmentRegions

namespace Historian

open Wire Checks Sorting

/-- A location that says where a frame stands in the artifact. -/
structure LocatedIn (bytes : Bytes) (located : FrameLocation × SourceFrame) : Prop where
  sequence : located.1.appendSequence = located.2.appendSequence
  length_eq : located.1.frameLength = located.2.bytes.length
  inside : located.1.frameOffset + located.1.frameLength ≤ bytes.length
  frame : slice bytes located.1.frameOffset located.1.frameLength = located.2.bytes

theorem locateFrames_locatedIn {bytes : Bytes} {seriesId : SeriesId} {cursor ordinal : Nat}
    {frames : List SourceFrame} (hle : cursor + framesLength frames ≤ bytes.length)
    (hslice : slice bytes cursor (framesLength frames) = framesBytes frames) :
    ∀ located ∈ locateFrames seriesId cursor ordinal frames, LocatedIn bytes located := by
  induction frames generalizing cursor ordinal with
  | nil => simp [locateFrames]
  | cons frame rest ih =>
    rw [framesLength_cons] at hle
    rw [framesLength_cons, framesBytes_cons, slice_append_iff rfl (by omega)] at hslice
    rw [locateFrames, List.forall_mem_cons]
    exact ⟨⟨rfl, rfl, by dsimp only; omega, hslice.1⟩, ih (by omega) hslice.2⟩

theorem locateGroups_locatedIn {bytes : Bytes} {cursor : Nat}
    {grouped : List (SeriesId × List SourceFrame)}
    (hle : cursor + framesLength (groupsFrames grouped) ≤ bytes.length)
    (hslice : slice bytes cursor (framesLength (groupsFrames grouped)) =
      framesBytes (groupsFrames grouped)) :
    ∀ located ∈ locateGroups cursor grouped, LocatedIn bytes located := by
  induction grouped generalizing cursor with
  | nil => simp [locateGroups]
  | cons group rest ih =>
    obtain ⟨seriesId, frames⟩ := group
    rw [groupsFrames_cons, framesLength_append] at hle
    rw [groupsFrames_cons, framesLength_append, framesBytes_append,
      slice_append_iff (length_framesBytes frames) (by omega)] at hslice
    rw [locateGroups, List.forall_mem_append]
    exact ⟨locateFrames_locatedIn (by omega) hslice.1, ih (by omega) hslice.2⟩

/-- Where the locations of a run of frames can lie. -/
theorem locateFrames_bounds {seriesId : SeriesId} {cursor ordinal : Nat}
    {frames : List SourceFrame} : ∀ located ∈ locateFrames seriesId cursor ordinal frames,
      cursor ≤ located.1.frameOffset ∧
      located.1.frameOffset + located.1.frameLength ≤ cursor + framesLength frames ∧
      located.1.frameOrdinal < ordinal + frames.length := by
  induction frames generalizing cursor ordinal with
  | nil => simp [locateFrames]
  | cons frame rest ih =>
    rw [locateFrames, List.forall_mem_cons, framesLength_cons, List.length_cons]
    refine ⟨⟨Nat.le_refl _, by dsimp only; omega, by dsimp only; omega⟩, ?_⟩
    intro located hlocated
    have hbounds := ih located hlocated
    omega

theorem locateGroups_bounds {cursor : Nat} {grouped : List (SeriesId × List SourceFrame)} :
    ∀ located ∈ locateGroups cursor grouped,
      located.1.frameOffset + located.1.frameLength ≤
        cursor + framesLength (groupsFrames grouped) ∧
      located.1.frameOrdinal < (groupsFrames grouped).length := by
  induction grouped generalizing cursor with
  | nil => simp [locateGroups]
  | cons group rest ih =>
    obtain ⟨seriesId, frames⟩ := group
    rw [locateGroups, List.forall_mem_append, groupsFrames_cons, framesLength_append,
      List.length_append]
    constructor
    · intro located hlocated
      have hbounds := locateFrames_bounds located hlocated
      omega
    · intro located hlocated
      have hbounds := ih located hlocated
      omega

theorem observation_le {frame : SourceFrame} {frames : List SourceFrame} (h : frame ∈ frames) :
    frame.admission.envelope.observations.length ≤ observationTotal frames :=
  List.single_le_sum (by simp) _ (List.mem_map_of_mem h)

/-- The observations of a located frame, with what their locations can be. -/
theorem mem_locateObservations {located : FrameLocation × SourceFrame}
    {entry : ObservationLocation} (h : entry ∈ locateObservations located) :
    entry.seriesId = located.1.seriesId ∧ entry.appendSequence = located.1.appendSequence ∧
      entry.frameOrdinal = located.1.frameOrdinal ∧ entry.frameOffset = located.1.frameOffset ∧
      entry.frameLength = located.1.frameLength ∧
      ∃ observation, located.2.admission.envelope.observations[entry.observationOrdinal]? =
        some observation ∧ entry.rawOrderKey = observation.rawOrderKey := by
  unfold locateObservations SourceFrame.observations at h
  rw [List.map_map, List.mem_map] at h
  obtain ⟨pair, hpair, rfl⟩ := h
  obtain ⟨observation, index⟩ := pair
  rw [List.mem_zipIdx_iff_getElem?] at hpair
  exact ⟨rfl, rfl, rfl, rfl, rfl, observation, hpair, rfl⟩

theorem length_flatMap_append (entries : List SegmentAppendEntryV1) :
    (entries.flatMap encodeAppendEntry).length = entries.length * segmentV1AppendEntryLen := by
  rw [List.length_flatMap]
  simp [length_encodeAppendEntry]

theorem length_flatMap_observation (entries : List SegmentObservationEntryV1) :
    (entries.flatMap encodeObservationEntry).length =
      entries.length * segmentV1ObservationEntryLen := by
  rw [List.length_flatMap]
  simp [length_encodeObservationEntry]

theorem checkedSlice_eq {bytes : Bytes} {offset length : Nat} (h : offset + length ≤ bytes.length) :
    checkedSlice bytes offset length = some (slice bytes offset length) := by
  unfold checkedSlice
  rw [if_pos h]

/-- The append directory is read as what it must say, and the frames it names are the source. -/
theorem proveAppends_ok {bytes : Bytes} {located : List (FrameLocation × SourceFrame)}
    {offset expected length : Nat} {floor : U64} {checksum : StreamingCrc32c}
    {proved : SourceProof} (hlocated : ∀ entry ∈ located, LocatedIn bytes entry)
    (hfits : ∀ entry ∈ located, entry.1.Fits)
    (hin : offset + located.length * segmentV1AppendEntryLen ≤ bytes.length)
    (hfloor : floor.val + located.length < 2 ^ 64)
    (hexpected : located ≠ [] → expected = floor.val + 1)
    (hlength : length + framesLength (located.map (·.2)) < 2 ^ 64) :
    proveAppends bytes (located.map (·.1)) offset expected checksum length = .ok proved ↔
      slice bytes offset (located.length * segmentV1AppendEntryLen) =
        (located.map (·.1)).flatMap encodeAppendEntry ∧
      FramesInOrder floor (located.map (·.2)) ∧
      proved = ⟨located.map (·.1), checksum.update (framesBytes (located.map (·.2))),
        length + framesLength (located.map (·.2))⟩ := by
  induction located generalizing offset expected floor checksum length proved with
  | nil =>
    simp only [List.map_nil, proveAppends, pure_ok, List.flatMap_nil, List.length_nil,
      Nat.zero_mul, FramesInOrder, true_and]
    constructor
    · intro h
      exact ⟨by simp [slice], h.symm⟩
    · intro h
      exact h.2.symm
  | cons entry rest ih =>
    obtain ⟨location, frame⟩ := entry
    obtain ⟨hentry, hlocatedRest⟩ := List.forall_mem_cons.mp hlocated
    obtain ⟨hentryFits, hfitsRest⟩ := List.forall_mem_cons.mp hfits
    obtain ⟨hsequence, hframeLength, hinside, hframe⟩ := hentry
    dsimp only at hsequence hframeLength hinside hframe hentryFits
    have hnow : expected = floor.val + 1 := hexpected (by simp)
    simp only [List.length_cons] at hin hfloor ⊢
    simp only [List.map_cons] at hlength ⊢
    rw [framesLength_cons] at hlength
    have hsplit : (rest.length + 1) * segmentV1AppendEntryLen =
        segmentV1AppendEntryLen + rest.length * segmentV1AppendEntryLen := by
      simp only [segmentV1AppendEntryLen]
      omega
    rw [hsplit] at hin
    unfold proveAppends
    rw [checkedSlice_eq hinside, hframe]
    simp only [bind_ok, exists_unit, refuse_ok, pure_ok, not_not, usizeAdd_ok, decodeAppendEntry_ok]
    rw [hsplit, List.flatMap_cons, slice_append_iff (length_encodeAppendEntry location) (by omega)]
    -- the counter cannot saturate while a frame is still expected
    have hnext : rest ≠ [] → location.appendSequence.val = expected →
        min (expected + 1) (2 ^ 64 - 1) = location.appendSequence.val + 1 := by
      intro hne hval
      have hpos := List.length_pos_iff.mpr hne
      have hlt : expected + 1 < 2 ^ 64 := by omega
      rw [Nat.min_eq_left (Nat.le_sub_one_of_lt hlt), hval]
    have hrest (hval : location.appendSequence.val = expected) {behind : StreamingCrc32c}
        {proved : SourceProof} := @ih (offset + segmentV1AppendEntryLen)
      (min (expected + 1) (2 ^ 64 - 1)) (length + location.frameLength) location.appendSequence
      behind proved hlocatedRest hfitsRest (by omega) (by omega) (fun hne => hnext hne hval)
      (by omega)
    constructor
    · intro h
      obtain ⟨hval, _, ⟨hslice, -⟩, rfl, _, ⟨-, rfl⟩, found, hfound, rfl⟩ := h
      rw [hrest hval] at hfound
      obtain ⟨hbehind, hconsecutive, rfl⟩ := hfound
      refine ⟨⟨hslice, hbehind⟩, ⟨?_, ?_⟩, ?_⟩
      · rw [← hsequence]
        omega
      · rw [← hsequence]
        exact hconsecutive
      · rw [framesLength_cons, framesBytes_cons, StreamingCrc32c.update_append, ← hframeLength,
          Nat.add_assoc]
    · intro h
      obtain ⟨⟨hslice, hbehind⟩, ⟨hfirst, hconsecutive⟩, rfl⟩ := h
      rw [← hsequence] at hfirst hconsecutive
      have hval : location.appendSequence.val = expected := by omega
      refine ⟨hval, location, ⟨hslice, hentryFits⟩, rfl, _, ⟨by omega, rfl⟩, _,
        (hrest hval).mpr ⟨hbehind, hconsecutive, rfl⟩, ?_⟩
      rw [framesLength_cons, framesBytes_cons, StreamingCrc32c.update_append, ← hframeLength,
        Nat.add_assoc]

theorem proveObservations_ok {bytes : Bytes} {expected : List ObservationLocation} {offset : Nat}
    {entries : List SegmentObservationEntryV1} (hfits : ∀ entry ∈ expected, entry.Fits)
    (hin : offset + expected.length * segmentV1ObservationEntryLen ≤ bytes.length) :
    proveObservations bytes expected offset = .ok entries ↔
      slice bytes offset (expected.length * segmentV1ObservationEntryLen) =
        expected.flatMap encodeObservationEntry ∧ entries = expected := by
  induction expected generalizing offset entries with
  | nil =>
    simp only [proveObservations, pure_ok, List.flatMap_nil, List.length_nil, Nat.zero_mul]
    constructor
    · intro h
      exact ⟨by simp [slice], h.symm⟩
    · intro h
      exact h.2.symm
  | cons entry rest ih =>
    obtain ⟨hentryFits, hfitsRest⟩ := List.forall_mem_cons.mp hfits
    have hsplit : (rest.length + 1) * segmentV1ObservationEntryLen =
        segmentV1ObservationEntryLen + rest.length * segmentV1ObservationEntryLen := by
      simp only [segmentV1ObservationEntryLen]
      omega
    rw [List.length_cons, hsplit] at hin
    rw [List.length_cons, hsplit, List.flatMap_cons,
      slice_append_iff (length_encodeObservationEntry entry) (by omega)]
    simp only [proveObservations, bind_ok, pure_ok, decodeObservationEntry_ok]
    constructor
    · intro h
      obtain ⟨_, ⟨rfl, hslice, -⟩, found, hfound, rfl⟩ := h
      rw [ih hfitsRest (by omega)] at hfound
      exact ⟨⟨hslice, hfound.1⟩, by rw [hfound.2]⟩
    · intro h
      obtain ⟨⟨hslice, hbehind⟩, rfl⟩ := h
      exact ⟨entry, ⟨rfl, hslice, hentryFits⟩, rest,
        (ih hfitsRest (by omega)).mpr ⟨hbehind, rfl⟩, rfl⟩

end Historian
