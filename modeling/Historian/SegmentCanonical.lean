import Historian.SegmentForm

namespace Historian

open Wire Checks Sorting

theorem series_bounds {blockCursor recentCursor : Nat}
    {grouped : List (SeriesId × List SourceFrame)} :
    ∀ entry ∈ (blockDirectories blockCursor recentCursor grouped).series,
      entry.blockOffset + entry.blockLength ≤
        blockCursor + framesLength (groupsFrames grouped) ∧
      entry.recentOffset + entry.recentLength ≤ recentCursor +
        observationTotal (groupsFrames grouped) * segmentV1ObservationEntryLen ∧
      entry.frameCount ≤ (groupsFrames grouped).length ∧
      entry.observationCount ≤ observationTotal (groupsFrames grouped) := by
  induction grouped generalizing blockCursor recentCursor with
  | nil => simp [blockDirectories]
  | cons group rest ih =>
    obtain ⟨seriesId, frames⟩ := group
    rw [series_blockDirectories, List.forall_mem_cons, groupsFrames_cons, framesLength_append,
      observationTotal_append, List.length_append, Nat.add_mul]
    constructor
    · dsimp only
      omega
    · intro entry hentry
      have hbounds := ih entry hentry
      omega

section Fits

variable {grouped : List (SeriesId × List SourceFrame)}
  (h : (groupsCount grouped).Bounded (framesLength (groupsFrames grouped)))

include h

/-- Everything that a directory says fits its field. -/
theorem fits_regions : (groupsLayout grouped).blocksOffset + framesLength (groupsFrames grouped) <
      2 ^ 64 ∧
    (groupsLayout grouped).recentOffset +
      observationTotal (groupsFrames grouped) * segmentV1ObservationEntryLen < 2 ^ 64 ∧
    (groupsFrames grouped).length < 2 ^ 32 ∧ observationTotal (groupsFrames grouped) < 2 ^ 32 := by
  have hword := h.artifactLength_lt
  have hcounts := h.counts_lt
  simp only [SegmentCounts.layout, groupsCount] at hword hcounts
  simp only [groupsLayout, SegmentCounts.layout, groupsCount, segmentV1ObservationEntryLen]
  omega

theorem fits_series : ∀ entry ∈ (blockDirectories (groupsLayout grouped).blocksOffset
    (groupsLayout grouped).recentOffset grouped).series, entry.Fits := by
  intro entry hentry
  have hbounds := series_bounds entry hentry
  have hregions := fits_regions h
  unfold SegmentSeriesEntryV1.Fits
  omega

theorem fits_located : ∀ located ∈ locateGroups (groupsLayout grouped).blocksOffset grouped,
    located.1.Fits := by
  intro located hlocated
  have hbounds := locateGroups_bounds located hlocated
  have hregions := fits_regions h
  unfold SegmentAppendEntryV1.Fits
  omega

theorem fits_observations : ∀ entry ∈ (locateGroups (groupsLayout grouped).blocksOffset
    grouped).flatMap locateObservations, entry.Fits := by
  intro entry hentry
  obtain ⟨located, hlocated, hmem⟩ := List.mem_flatMap.mp hentry
  obtain ⟨-, -, hordinal, hoffset, hlength, observation, hsome, -⟩ := mem_locateObservations hmem
  have hlt := (List.getElem?_eq_some_iff.mp hsome).1
  have hframe : located.2 ∈ groupsFrames grouped := by
    rw [← locateGroups_frames (groupsLayout grouped).blocksOffset grouped]
    exact List.mem_map_of_mem hlocated
  have htotal := observation_le hframe
  have hregions := fits_regions h
  have hfits := fits_located h located hlocated
  unfold SegmentAppendEntryV1.Fits at hfits
  unfold SegmentObservationEntryV1.Fits
  rw [hordinal, hoffset, hlength]
  omega

end Fits

theorem length_observations {blockCursor recentCursor : Nat}
    {grouped : List (SeriesId × List SourceFrame)} :
    (blockDirectories blockCursor recentCursor grouped).observations.length =
      observationTotal (groupsFrames grouped) := by
  induction grouped generalizing blockCursor recentCursor with
  | nil => rfl
  | cons group rest ih =>
    obtain ⟨seriesId, frames⟩ := group
    simp only [blockDirectories]
    rw [List.length_append, ih, length_recent, groupsFrames_cons, observationTotal_append]

theorem length_sortAppends (entries : List FrameLocation) :
    (sortAppends entries).length = entries.length := List.length_insertionSort _ _

theorem length_locateGroups (cursor : Nat) (grouped : List (SeriesId × List SourceFrame)) :
    (locateGroups cursor grouped).length = (groupsFrames grouped).length := by
  have h := congrArg List.length (locateGroups_frames cursor grouped)
  rwa [List.length_map] at h

theorem groupsBody_eq (storeId : StoreId) (sealed : SealedGeneration)
    (grouped : List (SeriesId × List SourceFrame)) : groupsBody storeId sealed grouped =
      (segmentHeaderFields storeId sealed (groupsCount grouped) (groupsLayout grouped)).flatten ++
        ((segmentDirectories (groupsLayout grouped) grouped).series.flatMap encodeSeriesEntry ++
          (framesBytes (groupsFrames grouped) ++
            ((segmentDirectories (groupsLayout grouped) grouped).appends.flatMap
                encodeAppendEntry ++
              (segmentDirectories (groupsLayout grouped) grouped).observations.flatMap
                encodeObservationEntry))) := by
  unfold groupsBody segmentBody
  rw [framesBytes, groupsFrames, List.flatMap_assoc]

/-- An artifact is the body of its groups when each of its regions is. -/
theorem regions_iff {storeId : StoreId} {sealed : SealedGeneration}
    {grouped : List (SeriesId × List SourceFrame)} {bytes : Bytes}
    (hlen : bytes.length = (groupsLayout grouped).artifactLength) :
    slice bytes 0 (bytes.length - 4) = groupsBody storeId sealed grouped ↔
      slice bytes 0 segmentV1HeaderLen = (segmentHeaderFields storeId sealed
        (groupsCount grouped) (groupsLayout grouped)).flatten ∧
      slice bytes segmentV1HeaderLen (grouped.length * segmentV1SeriesEntryLen) =
        (segmentDirectories (groupsLayout grouped) grouped).series.flatMap encodeSeriesEntry ∧
      slice bytes (groupsLayout grouped).blocksOffset (framesLength (groupsFrames grouped)) =
        framesBytes (groupsFrames grouped) ∧
      slice bytes (groupsLayout grouped).appendOffset
          ((groupsFrames grouped).length * segmentV1AppendEntryLen) =
        (segmentDirectories (groupsLayout grouped) grouped).appends.flatMap encodeAppendEntry ∧
      slice bytes (groupsLayout grouped).recentOffset
          (observationTotal (groupsFrames grouped) * segmentV1ObservationEntryLen) =
        (segmentDirectories (groupsLayout grouped) grouped).observations.flatMap
          encodeObservationEntry := by
  have hseries : ((segmentDirectories (groupsLayout grouped) grouped).series.flatMap
      encodeSeriesEntry).length = grouped.length * segmentV1SeriesEntryLen := by
    rw [length_flatMap_series]
    simp only [segmentDirectories, length_series]
  have happends : ((segmentDirectories (groupsLayout grouped) grouped).appends.flatMap
      encodeAppendEntry).length = (groupsFrames grouped).length * segmentV1AppendEntryLen := by
    rw [length_flatMap_append]
    simp only [segmentDirectories, length_sortAppends, appends_blockDirectories, List.length_map,
      length_locateGroups]
  have htotal : bytes.length = 192 + grouped.length * 64 + framesLength (groupsFrames grouped) +
      (groupsFrames grouped).length * 48 + observationTotal (groupsFrames grouped) * 96 + 4 := by
    rw [hlen]
    rfl
  have hsum : bytes.length - 4 = segmentV1HeaderLen + (grouped.length * segmentV1SeriesEntryLen +
      (framesLength (groupsFrames grouped) +
        ((groupsFrames grouped).length * segmentV1AppendEntryLen +
          observationTotal (groupsFrames grouped) * segmentV1ObservationEntryLen))) := by
    simp only [segmentV1HeaderLen, segmentV1SeriesEntryLen, segmentV1AppendEntryLen,
      segmentV1ObservationEntryLen]
    omega
  have hlens : segmentV1HeaderLen = 192 ∧ segmentV1SeriesEntryLen = 64 ∧
      segmentV1AppendEntryLen = 48 ∧ segmentV1ObservationEntryLen = 96 := ⟨rfl, rfl, rfl, rfl⟩
  obtain ⟨h192, h64, h48, h96⟩ := hlens
  have hblocks : segmentV1HeaderLen + grouped.length * segmentV1SeriesEntryLen =
      (groupsLayout grouped).blocksOffset := rfl
  have hdirectory : (groupsLayout grouped).blocksOffset + framesLength (groupsFrames grouped) =
      (groupsLayout grouped).appendOffset := rfl
  have hrecent : (groupsLayout grouped).appendOffset +
      (groupsFrames grouped).length * segmentV1AppendEntryLen =
        (groupsLayout grouped).recentOffset := rfl
  rw [hsum, groupsBody_eq, slice_append_iff (length_segmentHeader _ _ _ _) (by omega),
    Nat.zero_add, slice_append_iff hseries (by rw [h64]; omega), hblocks,
    slice_append_iff (length_framesBytes _) (by rw [← hblocks, h64]; omega), hdirectory,
    slice_append_iff happends (by rw [← hdirectory, ← hblocks, h64, h48]; omega), hrecent]

end Historian
