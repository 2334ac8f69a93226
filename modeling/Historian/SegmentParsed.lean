import Historian.SegmentCanonical

namespace Historian

open Wire Checks Sorting

variable {storeId : StoreId} {sealed : SealedGeneration}
  {grouped : List (SeriesId × List SourceFrame)} {bytes : Bytes}

/-- The frames of sealed groups hold in any order. -/
theorem holds_iff : (∀ frame ∈ mergeGroups grouped, frame.Holds storeId) ↔
    ∀ frame ∈ groupsFrames grouped, frame.Holds storeId := by
  have hmem := fun frame => (mergeGroups_perm grouped).mem_iff (a := frame)
  simp only [hmem]

theorem length_groupsBody : (groupsBody storeId sealed grouped).length + 4 =
    (groupsLayout grouped).artifactLength := by
  have hseries : ((segmentDirectories (groupsLayout grouped) grouped).series.flatMap
      encodeSeriesEntry).length = grouped.length * segmentV1SeriesEntryLen := by
    rw [length_flatMap_series]
    simp only [segmentDirectories, length_series]
  have happends : ((segmentDirectories (groupsLayout grouped) grouped).appends.flatMap
      encodeAppendEntry).length = (groupsFrames grouped).length * segmentV1AppendEntryLen := by
    rw [length_flatMap_append]
    simp only [segmentDirectories, length_sortAppends, appends_blockDirectories, List.length_map,
      length_locateGroups]
  have hobservations : ((segmentDirectories (groupsLayout grouped) grouped).observations.flatMap
      encodeObservationEntry).length =
        observationTotal (groupsFrames grouped) * segmentV1ObservationEntryLen := by
    rw [length_flatMap_observation]
    simp only [segmentDirectories, length_observations]
  rw [groupsBody_eq]
  simp only [List.length_append, hseries, happends, hobservations, length_framesBytes,
    length_segmentHeader]
  simp only [groupsLayout, groupsCount, SegmentCounts.layout, segmentV1HeaderLen,
    segmentV1SeriesEntryLen, segmentV1AppendEntryLen, segmentV1ObservationEntryLen]
  omega

/-- What the parser has found when it accepts. -/
theorem parse_sound {segment : SegmentV1} (h : parseSegmentV1 bytes storeId = .ok segment) :
    ∃ sealed grouped, SegmentForm storeId sealed grouped ∧
      segment = segmentOf storeId sealed grouped ∧ bytes = segment.bytes := by
  unfold parseSegmentV1 at h
  simp only [bind_ok, exists_unit, refuse_ok, pure_ok, not_or, not_not, Prod.exists] at h
  obtain ⟨header, hheader, series, last, hseries, ⟨hblockEnd, hrecentEnd, hframeEnd, hobservedEnd⟩,
    proofs, expected, hwalk, -, proved, hproved, ⟨-, hlength, hchecksum⟩, entries, hentries,
    rfl⟩ := h
  rw [parseSegmentHeader_ok] at hheader
  obtain ⟨sealable, hbounded, hlayout, htotal, hfields, hcrc, htrailer⟩ := hheader
  obtain ⟨sealed, count, layout, checksum⟩ := header
  dsimp only at sealable hbounded hlayout htotal hfields hcrc htrailer hseries hblockEnd
  dsimp only at hrecentEnd hframeEnd hobservedEnd hproved hlength hchecksum hentries
  have hword := hbounded.artifactLength_lt
  rw [← hlayout] at hword
  have hregions : layout.seriesOffset = 192 ∧ layout.blocksOffset = 192 + count.series * 64 ∧
      layout.appendOffset = layout.blocksOffset + layout.blocksLength ∧
      layout.recentOffset = layout.appendOffset + count.frames * 48 ∧
      layout.artifactLength = layout.recentOffset + count.observations * 96 + 4 := by
    rw [hlayout]
    exact ⟨rfl, rfl, rfl, rfl, rfl⟩
  obtain ⟨hseriesOffset, hblocksOffset, happendOffset, hrecentOffset, hartifact⟩ := hregions
  rw [parseSeriesDirectory_ok (by simp only [segmentV1SeriesEntryLen]; omega) (by omega)
    (by omega)] at hseries
  obtain ⟨hcount, hdirectory, -, hchain⟩ := hseries
  obtain ⟨grouped, hgroups, -, -, -, -, hblocks, rfl, rfl, rfl, rfl⟩ :=
    (series_blocks_ok (by omega) (by dsimp only; omega) (by dsimp only [segmentV1CrcLen]; omega)
      (by dsimp only; omega) (by dsimp only; omega)).mp ⟨hchain, hwalk⟩
  dsimp only at hblockEnd hrecentEnd hframeEnd hobservedEnd hblocks
  rw [length_series] at hcount
  have hcounts : count = groupsCount grouped := by
    obtain ⟨frames, groups, observations⟩ := count
    simp only [groupsCount, SegmentCounts.mk.injEq]
    dsimp only at hcount hframeEnd hobservedEnd
    omega
  have hblocksLength : layout.blocksLength = framesLength (groupsFrames grouped) := by omega
  rw [hblocksLength, hcounts] at hbounded
  obtain rfl : layout = groupsLayout grouped := by rw [hlayout, hblocksLength, hcounts]; rfl
  subst hcounts
  obtain ⟨hgrouped, hholds, -⟩ := groupsFrom_iff.mp hgroups
  have hlocated : ∀ entry ∈ sortedLocated (groupsLayout grouped).blocksOffset grouped,
      LocatedIn bytes entry := by
    intro entry hentry
    exact locateGroups_locatedIn (by omega) hblocks entry (mem_sortedLocated.mp hentry)
  have hfits : ∀ entry ∈ sortedLocated (groupsLayout grouped).blocksOffset grouped,
      entry.1.Fits := by
    intro entry hentry
    exact fits_located hbounded entry (mem_sortedLocated.mp hentry)
  have hlocatedLength : (sortedLocated (groupsLayout grouped).blocksOffset grouped).length =
      (groupsFrames grouped).length := by
    rw [sortedLocated, List.length_insertionSort, length_locateGroups]
  have hmerged := sortedLocated_frames (groupsLayout grouped).blocksOffset grouped
  have hperm := mergeGroups_perm grouped
  have hcounted := sealable.counted
  have hnonempty := sealable.nonempty
  rw [Fin.lt_def] at hnonempty
  have hmax := sealed.sequenceCutoff.isLt
  dsimp only [groupsCount] at hcounted happendOffset hrecentOffset hartifact
  rw [← sortedLocated_locations, proveAppends_ok hlocated hfits
    (by rw [hlocatedLength]; simp only [segmentV1AppendEntryLen]; omega) 
    (by rw [hlocatedLength]; omega) (fun _ => rfl) (by
      rw [hmerged, framesLength_perm hperm]
      simp only [journalV1HeaderLen]
      omega)] at hproved
  obtain ⟨happends, hconsecutive, rfl⟩ := hproved
  rw [hmerged] at hconsecutive hlength hchecksum
  have hsorted := sorted_observations (groupsLayout grouped).blocksOffset
    (groupsLayout grouped).recentOffset hgrouped
  have hfitsObservations : ∀ entry ∈ (blockDirectories (groupsLayout grouped).blocksOffset
      (groupsLayout grouped).recentOffset grouped).observations, entry.Fits := by
    intro entry hentry
    rw [← hsorted, List.mem_insertionSort] at hentry
    exact fits_observations hbounded entry hentry
  rw [hsorted, proveObservations_ok hfitsObservations (by
    rw [length_observations]
    simp only [segmentV1ObservationEntryLen]
    omega), length_observations] at hentries
  obtain ⟨hrecents, rfl⟩ := hentries
  have hbody : slice bytes 0 (bytes.length - 4) = groupsBody storeId sealed grouped := by
    rw [regions_iff htotal]
    rw [hseriesOffset] at hdirectory
    rw [hlocatedLength, sortedLocated_locations] at happends
    refine ⟨hfields, hdirectory, hblocks, ?_, hrecents⟩
    rw [happends, segmentDirectories, appends_blockDirectories]
  have hbytes : bytes = withChecksum (groupsBody storeId sealed grouped) := by
    rw [← hbody]
    exact eq_withChecksum (by omega) hcrc
  refine ⟨sealed, grouped, ⟨hgrouped, ⟨?_, ?_, holds_iff.mpr hholds, hconsecutive, ?_, hlength.symm,
    ?_⟩, hbounded⟩, ?_, rfl⟩
  · rw [hperm.length_eq]
    exact sealable
  · rw [hperm.length_eq]
    exact hbounded.frames_le
  · rw [observationTotal_perm hperm]
    exact hbounded.observations_le
  · rw [← hchecksum, StreamingCrc32c.update_append, StreamingCrc32c.finish_update]
  · have hsum : checksum = crc32c (groupsBody storeId sealed grouped) := by
      rw [htrailer, ← hcrc, ← hbody]
      rfl
    unfold segmentOf
    dsimp only
    rw [hsum, sortedLocated_locations, ← hbytes]
    simp only [segmentDirectories, appends_blockDirectories]

/-- Every frame stands where its location says. -/
theorem segmentOf_locatedIn (storeId : StoreId) (sealed : SealedGeneration)
    (grouped : List (SeriesId × List SourceFrame)) :
    ∀ entry ∈ locateGroups (groupsLayout grouped).blocksOffset grouped,
      LocatedIn (segmentOf storeId sealed grouped).bytes entry := by
  have hbody : (groupsBody storeId sealed grouped).length + 4 =
      (groupsLayout grouped).artifactLength := length_groupsBody
  have htotal : (segmentOf storeId sealed grouped).bytes.length =
      (groupsLayout grouped).artifactLength := by
    rw [← hbody]
    exact length_withChecksum _
  have hslice : slice (segmentOf storeId sealed grouped).bytes 0
      ((segmentOf storeId sealed grouped).bytes.length - 4) =
        groupsBody storeId sealed grouped := by
    rw [htotal, ← hbody]
    exact slice_head rfl
  have hparts : (groupsLayout grouped).artifactLength = (groupsLayout grouped).blocksOffset +
      framesLength (groupsFrames grouped) + (groupsFrames grouped).length * 48 +
        observationTotal (groupsFrames grouped) * 96 + 4 := rfl
  exact locateGroups_locatedIn (by omega) ((regions_iff htotal).mp hslice).2.2.1

/-- Where the series directory of the groups ends up. -/
def groupsCursor (grouped : List (SeriesId × List SourceFrame)) : SeriesCursor :=
  ⟨(groupsLayout grouped).blocksOffset + framesLength (groupsFrames grouped),
    (groupsLayout grouped).recentOffset +
      observationTotal (groupsFrames grouped) * segmentV1ObservationEntryLen,
    0 + (groupsFrames grouped).length, 0 + observationTotal (groupsFrames grouped)⟩

/-- The segment of the groups of a sealed source is accepted. -/
theorem parse_complete (h : SegmentForm storeId sealed grouped) :
    parseSegmentV1 (segmentOf storeId sealed grouped).bytes storeId =
      .ok (segmentOf storeId sealed grouped) := by
  obtain ⟨hgrouped, hsource, hbounded⟩ := h
  change parseSegmentV1 (withChecksum (groupsBody storeId sealed grouped)) storeId = _
  have hperm := mergeGroups_perm grouped
  have hword : (groupsLayout grouped).artifactLength < 2 ^ 64 := hbounded.artifactLength_lt
  have hbody : (groupsBody storeId sealed grouped).length + 4 =
      (groupsLayout grouped).artifactLength := length_groupsBody
  have htotal : (withChecksum (groupsBody storeId sealed grouped)).length =
      (groupsLayout grouped).artifactLength := by rw [length_withChecksum, hbody]
  have hoffset : (withChecksum (groupsBody storeId sealed grouped)).length - 4 =
      (groupsBody storeId sealed grouped).length := by rw [length_withChecksum]; omega
  have hslice : slice (withChecksum (groupsBody storeId sealed grouped)) 0
      ((withChecksum (groupsBody storeId sealed grouped)).length - 4) =
        groupsBody storeId sealed grouped := by
    rw [hoffset]
    exact slice_head rfl
  obtain ⟨hfields, hdirectory, hblocks, happends, hrecents⟩ := (regions_iff htotal).mp hslice
  have hheader : parseSegmentHeader (withChecksum (groupsBody storeId sealed grouped)) storeId =
      .ok ⟨sealed, groupsCount grouped, groupsLayout grouped,
        crc32c (groupsBody storeId sealed grouped)⟩ := by
    have hagrees : crc32c (groupsBody storeId sealed grouped) =
        u32At (withChecksum (groupsBody storeId sealed grouped))
          ((withChecksum (groupsBody storeId sealed grouped)).length - segmentV1CrcLen) := by
      have hagrees := withChecksum_agrees (rfl : (groupsBody storeId sealed grouped).length = _)
      rw [← hoffset, hslice] at hagrees
      exact hagrees
    rw [parseSegmentHeader_ok]
    refine ⟨?_, hbounded, rfl, htotal, hfields, ?_, hagrees⟩
    · dsimp only [groupsCount]
      rw [← hperm.length_eq]
      exact hsource.sealable
    · rw [← hagrees]
      exact congrArg crc32c hslice
  have hparts : (groupsLayout grouped).appendOffset =
        (groupsLayout grouped).blocksOffset + framesLength (groupsFrames grouped) ∧
      (groupsLayout grouped).blocksOffset = 192 + grouped.length * 64 ∧
      (groupsLayout grouped).recentOffset =
        (groupsLayout grouped).appendOffset + (groupsFrames grouped).length * 48 ∧
      (groupsLayout grouped).artifactLength = (groupsLayout grouped).recentOffset +
        observationTotal (groupsFrames grouped) * 96 + 4 := ⟨rfl, rfl, rfl, rfl⟩
  obtain ⟨happendOffset, hblocksOffset, hrecentOffset, hartifact⟩ := hparts
  have hfits := fits_regions hbounded
  have hwalked : SeriesChain (groupsLayout grouped).appendOffset
        ((withChecksum (groupsBody storeId sealed grouped)).length - segmentV1CrcLen) none
        ⟨(groupsLayout grouped).blocksOffset, (groupsLayout grouped).recentOffset, 0, 0⟩
        (segmentDirectories (groupsLayout grouped) grouped).series (groupsCursor grouped) ∧
      walkBlocks (withChecksum (groupsBody storeId sealed grouped)) storeId
        (segmentDirectories (groupsLayout grouped) grouped).series =
          .ok ((locateGroups (groupsLayout grouped).blocksOffset grouped).map (·.1),
            (locateGroups (groupsLayout grouped).blocksOffset grouped).flatMap
              locateObservations) := by
    refine (series_blocks_ok (by omega) (by dsimp only; omega)
      (by dsimp only [segmentV1CrcLen]; omega) (by dsimp only; omega) (by dsimp only; omega)).mpr
      ⟨grouped, groupsFrom_iff.mpr ⟨hgrouped, holds_iff.mp hsource.holds, by simp⟩, ?_, ?_, ?_, ?_,
        hblocks, rfl, rfl, rfl, rfl⟩
    all_goals dsimp only [segmentV1CrcLen, segmentV1ObservationEntryLen]; omega
  have hseries : parseSeriesDirectory (withChecksum (groupsBody storeId sealed grouped))
      (groupsLayout grouped)
      ((withChecksum (groupsBody storeId sealed grouped)).length - segmentV1CrcLen)
      (groupsCount grouped).series (groupsLayout grouped).seriesOffset none
      ⟨(groupsLayout grouped).blocksOffset, (groupsLayout grouped).recentOffset, 0, 0⟩ =
        .ok ((segmentDirectories (groupsLayout grouped) grouped).series,
          groupsCursor grouped) := by
    rw [parseSeriesDirectory_ok]
    · exact ⟨length_series _ _ _, hdirectory, fits_series hbounded, hwalked.1⟩
    · dsimp only [groupsLayout, groupsCount, SegmentCounts.layout, segmentV1SeriesEntryLen]
      omega
    · omega
    · dsimp only [segmentV1CrcLen]
      omega
  unfold parseSegmentV1
  simp only [bind_ok, exists_unit, refuse_ok, pure_ok, not_or, not_not, Prod.exists]
  refine ⟨_, hheader, _, _, hseries, ⟨?_, ?_, ?_, ?_⟩, _, _, hwalked.2, ⟨?_, ?_⟩, ?_⟩
  · rfl
  · dsimp only [groupsCursor, segmentV1CrcLen, segmentV1ObservationEntryLen]
    omega
  · exact Nat.zero_add _
  · exact Nat.zero_add _
  · rw [List.length_map, length_locateGroups]
    rfl
  · rw [length_flatMap_locate, locateGroups_frames]
    rfl
  have hlocated : ∀ entry ∈ sortedLocated (groupsLayout grouped).blocksOffset grouped,
      LocatedIn (withChecksum (groupsBody storeId sealed grouped)) entry := by
    intro entry hentry
    exact locateGroups_locatedIn (by omega) hblocks entry (mem_sortedLocated.mp hentry)
  have hfitsLocated : ∀ entry ∈ sortedLocated (groupsLayout grouped).blocksOffset grouped,
      entry.1.Fits := by
    intro entry hentry
    exact fits_located hbounded entry (mem_sortedLocated.mp hentry)
  have hlocatedLength : (sortedLocated (groupsLayout grouped).blocksOffset grouped).length =
      (groupsFrames grouped).length := by
    rw [sortedLocated, List.length_insertionSort, length_locateGroups]
  have hmerged := sortedLocated_frames (groupsLayout grouped).blocksOffset grouped
  have hcounted := hsource.sealable.counted
  have hnonempty := hsource.sealable.nonempty
  have hlength := hsource.length_eq
  have hmax := sealed.sequenceCutoff.isLt
  rw [Fin.lt_def] at hnonempty
  rw [hperm.length_eq] at hcounted
  rw [framesLength_perm hperm] at hlength
  have hproved : proveAppends (withChecksum (groupsBody storeId sealed grouped))
      (sortAppends ((locateGroups (groupsLayout grouped).blocksOffset grouped).map (·.1)))
      (groupsLayout grouped).appendOffset (sealed.sequenceFloor.val + 1)
      (StreamingCrc32c.new.update (encodeHeader storeId)) journalV1HeaderLen =
        .ok ⟨(sortedLocated (groupsLayout grouped).blocksOffset grouped).map (·.1),
          (StreamingCrc32c.new.update (encodeHeader storeId)).update
            (framesBytes (mergeGroups grouped)),
          journalV1HeaderLen + framesLength (mergeGroups grouped)⟩ := by
    rw [← sortedLocated_locations, proveAppends_ok hlocated hfitsLocated
      (by rw [hlocatedLength]; dsimp only [segmentV1AppendEntryLen]; omega)
      (by rw [hlocatedLength]; omega) (fun _ => rfl)
      (by rw [hmerged, framesLength_perm hperm, ← hlength]; exact Fin.isLt _)]
    rw [hmerged, hlocatedLength, sortedLocated_locations]
    refine ⟨?_, hsource.consecutive, rfl⟩
    rw [happends, segmentDirectories, appends_blockDirectories]
  refine ⟨_, hproved, ⟨?_, ?_, ?_⟩, ?_⟩
  · have hsequences : ((sortedLocated (groupsLayout grouped).blocksOffset grouped).map
        (·.1)).map (·.appendSequence) = (mergeGroups grouped).map (·.appendSequence) := by
      rw [← hmerged, List.map_map, List.map_map]
      apply List.map_congr_left
      intro entry hentry
      exact (hlocated entry hentry).sequence
    rw [← sortedLocated_locations, ← List.getLast?_map, hsequences, List.getLast?_map]
    exact hsource.last
  · rw [framesLength_perm hperm, hlength]
  · rw [StreamingCrc32c.update_append, StreamingCrc32c.finish_update]
    exact hsource.checksum
  have hsorted := sorted_observations (groupsLayout grouped).blocksOffset
    (groupsLayout grouped).recentOffset hgrouped
  have hfitsObservations : ∀ entry ∈ (blockDirectories (groupsLayout grouped).blocksOffset
      (groupsLayout grouped).recentOffset grouped).observations, entry.Fits := by
    intro entry hentry
    rw [← hsorted, List.mem_insertionSort] at hentry
    exact fits_observations hbounded entry hentry
  refine ⟨(blockDirectories (groupsLayout grouped).blocksOffset
    (groupsLayout grouped).recentOffset grouped).observations, ?_, ?_⟩
  · rw [hsorted, proveObservations_ok hfitsObservations (by
      rw [length_observations]
      dsimp only [segmentV1ObservationEntryLen]
      omega), length_observations]
    exact ⟨hrecents, rfl⟩
  · unfold segmentOf
    rw [sortedLocated_locations]
    simp only [segmentDirectories, appends_blockDirectories]

end Historian
