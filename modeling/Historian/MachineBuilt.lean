import Historian.MachineWrites
import Historian.SegmentRoundTrip

namespace Historian.MachineSegment

open Wire Checks Machine MachineFrame

/-- The blocks, the runs of the recent directory and the series directory are written as the
directories of the groups say, and nothing else is. -/
theorem writeBlocks_eq {source : Bytes} {placed : List PlacedFrame} {layout : SegmentLayout}
    {indices : List (SeriesId × List Nat)} {grouped : List (SeriesId × List SourceFrame)}
    (h : GroupsRelated (Held source placed) indices grouped) (hsource : source.length < wordSize)
    {header series blocks appends recents : Bytes}
    {seriesIndex blockCursor recentCursor : Nat} {located : List FrameLocation}
    (hheader : header.length = layout.seriesOffset)
    (hdirectory : series.length = seriesIndex * segmentV1SeriesEntryLen)
    (hblock : header.length + series.length + grouped.length * segmentV1SeriesEntryLen +
      blocks.length = blockCursor)
    (hrecent : blockCursor + framesLength (groupsFrames grouped) + appends.length +
      recents.length = recentCursor)
    (hframes : (groupsFrames grouped).length < 2 ^ 32)
    (hobserved : observationTotal (groupsFrames grouped) < 2 ^ 32)
    (hword : recentCursor + observationTotal (groupsFrames grouped) *
      segmentV1ObservationEntryLen < wordSize) :
    writeBlocks source placed layout indices seriesIndex
      ⟨buffer header series (grouped.length * segmentV1SeriesEntryLen) blocks
          (framesLength (groupsFrames grouped)) appends recents
          (observationTotal (groupsFrames grouped) * segmentV1ObservationEntryLen),
        blockCursor, recentCursor, located⟩ =
      pure ⟨buffer header
          (series ++ (blockDirectories blockCursor recentCursor grouped).series.flatMap
            encodeSeriesEntry) 0
          (blocks ++ grouped.flatMap fun group => group.2.flatMap (·.bytes)) 0 appends
          (recents ++ (blockDirectories blockCursor recentCursor grouped).observations.flatMap
            encodeObservationEntry) 0,
        blockCursor + framesLength (groupsFrames grouped),
        recentCursor + observationTotal (groupsFrames grouped) * segmentV1ObservationEntryLen,
        located ++ (blockDirectories blockCursor recentCursor grouped).appends⟩ := by
  induction h generalizing series blocks recents seriesIndex blockCursor recentCursor located with
  | nil =>
    simp [writeBlocks, blockDirectories, groupsFrames, framesLength, observationTotal]
  | @cons left right indices grouped hhead hrest ih =>
    obtain ⟨seriesId, frameIndices⟩ := left
    obtain ⟨key, frames⟩ := right
    obtain ⟨hkey, hheld⟩ := hhead
    dsimp only at hkey hheld
    subst hkey
    have hlength : frameIndices.length = frames.length := hheld.length_eq
    have hmore : ((seriesId, frames) :: grouped).length * segmentV1SeriesEntryLen =
        segmentV1SeriesEntryLen + grouped.length * segmentV1SeriesEntryLen := by
      rw [List.length_cons, Nat.add_mul, Nat.one_mul, Nat.add_comm]
    have hnextIndex : (seriesIndex + 1) * segmentV1SeriesEntryLen =
        seriesIndex * segmentV1SeriesEntryLen + segmentV1SeriesEntryLen := by
      rw [Nat.add_mul, Nat.one_mul]
    rw [groupsFrames_cons, framesLength_append] at hrecent ⊢
    rw [groupsFrames_cons, List.length_append] at hframes
    rw [groupsFrames_cons, observationTotal_append] at hobserved hword
    rw [observationTotal_append, Nat.add_mul]
    rw [Nat.add_mul] at hword
    rw [hmore] at hblock ⊢
    have hrun : (sortRecent ((locateFrames seriesId blockCursor 0 frames).flatMap
        locateObservations)).length = observationTotal frames := by
      rw [length_sortRecent, length_flatMap_locate, locateFrames_frames]
    generalize hentries : sortRecent ((locateFrames seriesId blockCursor 0 frames).flatMap
      locateObservations) = entries at hrun
    have hentry : (encodeSeriesEntry ⟨seriesId, blockCursor, framesLength frames, frames.length,
        entries.length, recentCursor, entries.length * segmentV1ObservationEntryLen⟩).length =
          segmentV1SeriesEntryLen := length_encodeSeriesEntry _
    rw [← hrun] at hword hobserved ⊢
    unfold writeBlocks
    dsimp only
    rw [mul_eq (by omega), pure_bind, add_eq (by omega), pure_bind,
      copyFrames_eq hheld hsource (by omega) (by omega) (by omega), pure_bind]
    dsimp only
    rw [List.nil_append, hentries,
      writeRecent_eq (by rw [List.length_append, length_framesBytes]; omega) (by omega), pure_bind]
    dsimp only
    rw [sub_eq (by omega), pure_bind, Nat.add_sub_cancel_left, hlength]
    have hfew : (refuseIf (2 ^ 32 ≤ frames.length) SegmentV1Error.bounds) = pure () :=
      if_neg (by omega)
    have hshort : (refuseIf (2 ^ 32 ≤ entries.length) SegmentV1Error.bounds) = pure () :=
      if_neg (by omega)
    rw [hfew, pure_bind, hshort, pure_bind, sub_eq (by omega), pure_bind, Nat.add_sub_cancel_left,
      add_eq (by omega), pure_bind]
    have hwrite := @write_series header series (blocks ++ framesBytes frames) appends
      (recents ++ entries.flatMap encodeObservationEntry)
      (encodeSeriesEntry ⟨seriesId, blockCursor, framesLength frames, frames.length,
        entries.length, recentCursor, entries.length * segmentV1ObservationEntryLen⟩)
      (grouped.length * segmentV1SeriesEntryLen) (framesLength (groupsFrames grouped))
      (observationTotal (groupsFrames grouped) * segmentV1ObservationEntryLen)
      (layout.seriesOffset + seriesIndex * segmentV1SeriesEntryLen)
      (layout.seriesOffset + seriesIndex * segmentV1SeriesEntryLen + segmentV1SeriesEntryLen)
      (by omega) (by rw [hentry])
    rw [hentry] at hwrite
    rw [hwrite, pure_bind]
    have hnext := @ih
      (series ++ encodeSeriesEntry ⟨seriesId, blockCursor, framesLength frames, frames.length,
        entries.length, recentCursor, entries.length * segmentV1ObservationEntryLen⟩)
      (blocks ++ framesBytes frames) (recents ++ entries.flatMap encodeObservationEntry)
      (seriesIndex + 1) (blockCursor + framesLength frames)
      (recentCursor + entries.length * segmentV1ObservationEntryLen)
      (located ++ (locateFrames seriesId blockCursor 0 frames).map (·.1))
      (by rw [List.length_append, hentry]; omega)
      (by rw [List.length_append, hentry, List.length_append, length_framesBytes]; omega)
      (by rw [List.length_append, length_flatMap_observation]; omega)
      (by omega) (by omega) (by omega)
    rw [hnext]
    simp only [blockDirectories, hentries, List.flatMap_cons, List.flatMap_append,
      List.append_assoc, Nat.add_assoc, framesBytes]

theorem zeros_append (a b : Nat) : zeros a ++ zeros b = zeros (a + b) :=
  (List.replicate_add _ _ _).symm

/-- The buffer behind its header, before anything else is written. -/
theorem buffer_start (header : Bytes) (seriesLeft blocksLeft appendsLen recentsLeft : Nat) :
    header ++ (zeros (seriesLeft + (blocksLeft + (appendsLen + (recentsLeft + 4)))) ++ []) =
      buffer header [] seriesLeft [] blocksLeft (zeros appendsLen) [] recentsLeft := by
  simp only [buffer, List.append_nil, List.nil_append, zeros_append]

/-- What the builder does behind its layout: the body is written region by region, and its
checksum behind it. -/
theorem writeSegment_eq {source : Bytes} {placed : List PlacedFrame}
    {indices : List (SeriesId × List Nat)} {grouped : List (SeriesId × List SourceFrame)}
    (h : GroupsRelated (Held source placed) indices grouped) (hsource : source.length < wordSize)
    (hbounded : (groupsCount grouped).Bounded (framesLength (groupsFrames grouped)))
    (storeId : StoreId) (sealed : SealedGeneration) :
    (do
      let bytes ← writeRange (zeros (groupsLayout grouped).artifactLength) 0 segmentV1HeaderLen
        (segmentHeaderFields storeId sealed (groupsCount grouped) (groupsLayout grouped)).flatten
      let cursor ← writeBlocks source placed (groupsLayout grouped) indices 0
        ⟨bytes, (groupsLayout grouped).blocksOffset, (groupsLayout grouped).recentOffset, []⟩
      let recentEnd ← add cursor.recentCursor segmentV1CrcLen
      refuseIf (cursor.blockCursor ≠ (groupsLayout grouped).appendOffset ∨
        recentEnd ≠ cursor.bytes.length) .invalidSource
      let bytes ← writeAppends (groupsLayout grouped).appendOffset (sortAppends cursor.appends) 0
        cursor.bytes
      let checksumOffset ← sub bytes.length segmentV1CrcLen
      let body ← range bytes 0 checksumOffset
      let bytes ← writeRange bytes checksumOffset bytes.length (toBE 4 (crc32c body))
      pure (⟨bytes, inspection storeId sealed (groupsCount grouped) (groupsLayout grouped)
        (crc32c body)⟩ : PreparedSegmentV1) : Run SegmentV1Error PreparedSegmentV1) =
    pure ⟨withChecksum (groupsBody storeId sealed grouped),
      inspection storeId sealed (groupsCount grouped) (groupsLayout grouped)
        (crc32c (groupsBody storeId sealed grouped))⟩ := by
  have hcounts := hbounded.counts_lt
  have hartifact := hbounded.artifactLength_lt
  have hword : wordSize = 2 ^ 64 := rfl
  have hbody := @length_groupsBody storeId sealed grouped
  have hregions : groupsBody storeId sealed grouped = _ := groupsBody_eq storeId sealed grouped
  have hheader := length_segmentHeader storeId sealed (groupsCount grouped) (groupsLayout grouped)
  generalize (segmentHeaderFields storeId sealed (groupsCount grouped)
    (groupsLayout grouped)).flatten = header at hheader hregions ⊢
  have hlens : segmentV1HeaderLen = 192 ∧ segmentV1SeriesEntryLen = 64 ∧
      segmentV1AppendEntryLen = 48 ∧ segmentV1ObservationEntryLen = 96 ∧ segmentV1CrcLen = 4 :=
    ⟨rfl, rfl, rfl, rfl, rfl⟩
  obtain ⟨h192, h64, h48, h96, h4⟩ := hlens
  have happends : (sortAppends (blockDirectories (groupsLayout grouped).blocksOffset
      (groupsLayout grouped).recentOffset grouped).appends).length =
        (groupsFrames grouped).length := by
    rw [length_sortAppends, appends_blockDirectories, List.length_map, length_locateGroups]
  have hblocksOffset : (groupsLayout grouped).blocksOffset =
      segmentV1HeaderLen + grouped.length * segmentV1SeriesEntryLen := rfl
  have happendOffset : (groupsLayout grouped).appendOffset =
      (groupsLayout grouped).blocksOffset + framesLength (groupsFrames grouped) := rfl
  have hrecentOffset : (groupsLayout grouped).recentOffset = (groupsLayout grouped).appendOffset +
      (groupsFrames grouped).length * segmentV1AppendEntryLen := rfl
  have hlength : (groupsLayout grouped).artifactLength = (groupsLayout grouped).recentOffset +
      observationTotal (groupsFrames grouped) * segmentV1ObservationEntryLen + 4 := rfl
  have hlt : (groupsLayout grouped).artifactLength < wordSize := hartifact
  have hframes : (groupsFrames grouped).length < 2 ^ 32 := hcounts.1
  have hobserved : observationTotal (groupsFrames grouped) < 2 ^ 32 := hcounts.2.2
  have hstart : (writeRange (zeros (groupsLayout grouped).artifactLength) 0 segmentV1HeaderLen
      header : Run SegmentV1Error Bytes) = pure (buffer header []
        (grouped.length * segmentV1SeriesEntryLen) [] (framesLength (groupsFrames grouped))
        (zeros ((groupsFrames grouped).length * segmentV1AppendEntryLen)) []
        (observationTotal (groupsFrames grouped) * segmentV1ObservationEntryLen)) := by
    have hwrite := @writeZeros [] [] header (grouped.length * segmentV1SeriesEntryLen +
      (framesLength (groupsFrames grouped) +
        ((groupsFrames grouped).length * segmentV1AppendEntryLen +
          (observationTotal (groupsFrames grouped) * segmentV1ObservationEntryLen + 4))))
      0 segmentV1HeaderLen rfl (by rw [hheader, Nat.zero_add])
    rw [List.nil_append, List.nil_append, buffer_start, List.append_nil] at hwrite
    rw [← hwrite]
    congr 2
    omega
  have hblocks := @writeBlocks_eq source placed (groupsLayout grouped) indices grouped h hsource
    header [] [] (zeros ((groupsFrames grouped).length * segmentV1AppendEntryLen)) [] 0
    (groupsLayout grouped).blocksOffset (groupsLayout grouped).recentOffset [] hheader
    (Nat.zero_mul _).symm (by rw [List.length_nil]; omega)
    (by rw [List.length_nil, length_zeros]; omega) hframes hobserved (by omega)
  rw [hstart, pure_bind, hblocks, pure_bind]
  dsimp only [segmentDirectories] at hregions
  have hseries : ((blockDirectories (groupsLayout grouped).blocksOffset
      (groupsLayout grouped).recentOffset grouped).series.flatMap encodeSeriesEntry).length =
        grouped.length * segmentV1SeriesEntryLen := by
    rw [length_flatMap_series, length_series]
  have hrecents : ((blockDirectories (groupsLayout grouped).blocksOffset
      (groupsLayout grouped).recentOffset grouped).observations.flatMap
        encodeObservationEntry).length =
          observationTotal (groupsFrames grouped) * segmentV1ObservationEntryLen := by
    rw [length_flatMap_observation, length_observations]
  have hframesBytes : (grouped.flatMap fun group => group.2.flatMap (·.bytes)) =
      framesBytes (groupsFrames grouped) := by
    rw [framesBytes, groupsFrames, List.flatMap_assoc]
  rw [hframesBytes]
  generalize blockDirectories (groupsLayout grouped).blocksOffset
    (groupsLayout grouped).recentOffset grouped = directories at *
  have hwritten : buffer header ([] ++ directories.series.flatMap encodeSeriesEntry) 0
      ([] ++ framesBytes (groupsFrames grouped)) 0
      (zeros ((groupsFrames grouped).length * segmentV1AppendEntryLen))
      ([] ++ directories.observations.flatMap encodeObservationEntry) 0 =
        (header ++ (directories.series.flatMap encodeSeriesEntry ++
          framesBytes (groupsFrames grouped))) ++
          (zeros ((sortAppends directories.appends).length * segmentV1AppendEntryLen) ++
            (directories.observations.flatMap encodeObservationEntry ++ zeros 4)) := by
    rw [happends]
    simp [buffer, zeros]
  have hbefore : (header ++ (directories.series.flatMap encodeSeriesEntry ++
      framesBytes (groupsFrames grouped))).length = (groupsLayout grouped).appendOffset := by
    rw [List.length_append, List.length_append, hseries, length_framesBytes]
    omega
  dsimp only
  rw [hwritten, List.nil_append, add_eq (by omega), pure_bind]
  have hgo : (refuseIf ((groupsLayout grouped).blocksOffset +
      framesLength (groupsFrames grouped) ≠ (groupsLayout grouped).appendOffset ∨
      (groupsLayout grouped).recentOffset + observationTotal (groupsFrames grouped) *
        segmentV1ObservationEntryLen + segmentV1CrcLen ≠
      ((header ++ (directories.series.flatMap encodeSeriesEntry ++
        framesBytes (groupsFrames grouped))) ++
        (zeros ((sortAppends directories.appends).length * segmentV1AppendEntryLen) ++
          (directories.observations.flatMap encodeObservationEntry ++ zeros 4))).length)
      SegmentV1Error.invalidSource) = pure () := by
    refine if_neg ?_
    rw [List.length_append, hbefore, List.length_append, List.length_append, length_zeros,
      length_zeros, hrecents, happends]
    omega
  rw [hgo, pure_bind,
    writeAppends_eq (by rw [hbefore]; omega) (by rw [happends, Nat.zero_add]; omega),
    pure_bind]
  have hwhole : (header ++ (directories.series.flatMap encodeSeriesEntry ++
      framesBytes (groupsFrames grouped))) ++
      ((sortAppends directories.appends).flatMap encodeAppendEntry ++
        (directories.observations.flatMap encodeObservationEntry ++ zeros 4)) =
          groupsBody storeId sealed grouped ++ (zeros 4 ++ []) := by
    rw [hregions]
    simp only [List.append_assoc, List.append_nil]
  rw [hwhole]
  generalize groupsBody storeId sealed grouped = body at *
  have hlen : (body ++ (zeros 4 ++ [])).length = body.length + segmentV1CrcLen := by
    rw [List.length_append, List.length_append, length_zeros, List.length_nil]
    omega
  rw [hlen, sub_eq (by omega), pure_bind, Nat.add_sub_cancel_right,
    range_eq (Nat.zero_le _) (by rw [hlen]; omega), pure_bind, List.drop_zero, Nat.sub_zero,
    List.take_left,
    writeRange_middle rfl (by rw [length_zeros, h4]) (by rw [length_zeros, length_toBE]), pure_bind,
    List.append_nil]
  rfl

/-- What follows the header of a source is its frames in any order. -/
theorem length_sourceBlocks {storeId : StoreId} {source : Bytes} {frames : List SourceFrame}
    (h : source = encodeHeader storeId ++ framesBytes frames) :
    source.length - journalV1HeaderLen = framesLength (groupsFrames (groupFrames frames)) := by
  have hheader : (encodeHeader storeId).length = journalV1HeaderLen := length_encodeHeader storeId
  rw [h, List.length_append, hheader, Nat.add_sub_cancel_left, length_framesBytes,
    framesLength_perm (perm_groupFrames frames)]

theorem sourceGroups_related {storeId : StoreId} {source : Bytes} {frames : List SourceFrame}
    (h : source = encodeHeader storeId ++ framesBytes frames) :
    GroupsRelated (Held source (placeFrames journalV1HeaderLen frames))
      (groupIndices (placeFrames journalV1HeaderLen frames)) (groupFrames frames) := by
  have hheader : (encodeHeader storeId).length = journalV1HeaderLen := length_encodeHeader storeId
  rw [← hheader]
  exact groupIndices_related h

/-- The builder leaves no machine word and no slice, and writes the prepared segment. -/
theorem agrees_buildSegmentV1 (storeId : StoreId) (sealed : SealedGeneration) (source : Bytes) :
    Agrees (buildSegmentV1 storeId sealed source)
      (Historian.buildSegmentV1 storeId sealed source) := by
  refine Simulates.agrees ?_
  unfold buildSegmentV1 Historian.buildSegmentV1 layOutSource
  rw [bind_assoc]
  refine Simulates.bind (simulates_scanSource storeId sealed source) ?_
  intro placed frames hplaced hscan
  subst hplaced
  obtain ⟨hsealed, hsource⟩ := scanSource_ok.mp hscan
  have hlength := length_sourceBlocks hsource
  have hrelated := sourceGroups_related hsource
  have hle : journalV1HeaderLen ≤ source.length := by
    have hheader : (encodeHeader storeId).length = journalV1HeaderLen :=
      length_encodeHeader storeId
    rw [hsource, List.length_append, hheader]
    omega
  refine Simulates.step (subOr_eq hle) ?_
  rw [length_placeFrames, sum_placeFrames, hrelated.length_eq, hlength, bind_assoc]
  simp only [← groupsCount_groupFrames]
  refine Simulates.agreed (agrees_layoutNew _ _) ?_
  intro layout hlayout
  obtain ⟨hbounded, heq⟩ := SegmentLayout.new_ok.mp hlayout
  have hform : layout = groupsLayout (groupFrames frames) := heq
  subst hform
  have hcounts := hbounded.counts_lt
  rw [groupsCount_groupFrames] at hcounts
  dsimp only at hcounts
  refine Simulates.step (if_neg (by omega)) ?_
  have hsourceLen : source.length < wordSize := by
    have hmax : maxActiveJournalBytes = 536870912 := rfl
    have hword : wordSize = 2 ^ 64 := rfl
    have hjournal : journalV1HeaderLen = 28 := rfl
    have hblocks := hbounded.blocks_le
    omega
  rw [writeSegment_eq hrelated hsourceLen hbounded storeId sealed]
  have hends : refuse ((groupsLayout (groupFrames frames)).blocksOffset +
      ((groupFrames frames).map fun group => framesLength group.2).sum ≠
        (groupsLayout (groupFrames frames)).appendOffset ∨
      (groupsLayout (groupFrames frames)).recentOffset +
        (segmentDirectories (groupsLayout (groupFrames frames))
          (groupFrames frames)).observations.length * segmentV1ObservationEntryLen +
        segmentV1CrcLen ≠ (groupsLayout (groupFrames frames)).artifactLength)
      SegmentV1Error.invalidSource = .ok () := by
    rw [refuse_ok, not_or, not_not, not_not, sum_framesLength]
    simp only [segmentDirectories, length_observations]
    exact ⟨rfl, rfl⟩
  rw [pure_bind, hends]
  exact Simulates.ok rfl

end Historian.MachineSegment
