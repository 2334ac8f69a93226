import Historian.MachineBuilt

namespace Historian

open Wire Checks Machine

/-- The sections of an artifact stand one behind the other, from the header to the checksum. -/
structure SegmentLayout.Contiguous (layout : SegmentLayout) : Prop where
  series : layout.seriesOffset = segmentV1HeaderLen
  blocks : layout.blocksOffset = layout.seriesOffset + layout.seriesLength
  appends : layout.appendOffset = layout.blocksOffset + layout.blocksLength
  recent : layout.recentOffset = layout.appendOffset + layout.appendLength
  checksum : layout.artifactLength = layout.recentOffset + layout.recentLength + segmentV1CrcLen

/-- The bytes of an artifact are its sections, each as long as the layout says. -/
def SegmentLayout.Sections (layout : SegmentLayout) (bytes : Bytes) : Prop :=
  ∃ header series blocks appends recents checksum,
    bytes = header ++ (series ++ (blocks ++ (appends ++ recents))) ++ checksum ∧
      header.length = layout.seriesOffset ∧ series.length = layout.seriesLength ∧
      blocks.length = layout.blocksLength ∧ appends.length = layout.appendLength ∧
      recents.length = layout.recentLength ∧ checksum.length = segmentV1CrcLen

variable {storeId : StoreId} {sealed : SealedGeneration} {source : Bytes}

theorem SegmentCounts.layout_contiguous (count : SegmentCounts) (blocksLength : Nat) :
    (count.layout blocksLength).Contiguous := ⟨rfl, rfl, rfl, rfl, rfl⟩

theorem groupsBody_sections (storeId : StoreId) (sealed : SealedGeneration)
    (grouped : List (SeriesId × List SourceFrame)) :
    (groupsLayout grouped).Sections (withChecksum (groupsBody storeId sealed grouped)) := by
  have hseries : ((segmentDirectories (groupsLayout grouped) grouped).series.flatMap
      encodeSeriesEntry).length = (groupsLayout grouped).seriesLength := by
    rw [length_flatMap_series]
    simp only [segmentDirectories, length_series]
    rfl
  have happends : ((segmentDirectories (groupsLayout grouped) grouped).appends.flatMap
      encodeAppendEntry).length = (groupsLayout grouped).appendLength := by
    rw [length_flatMap_append]
    simp only [segmentDirectories, length_sortAppends, appends_blockDirectories, List.length_map,
      length_locateGroups]
    rfl
  have hrecents : ((segmentDirectories (groupsLayout grouped) grouped).observations.flatMap
      encodeObservationEntry).length = (groupsLayout grouped).recentLength := by
    rw [length_flatMap_observation]
    simp only [segmentDirectories, length_observations]
    rfl
  unfold withChecksum
  rw [groupsBody_eq]
  exact ⟨_, _, _, _, _, _, rfl, length_segmentHeader _ _ _ _, hseries,
    length_framesBytes (groupsFrames grouped), happends, hrecents, length_toBE _ _⟩

/-- Frames that hold their observation bound cannot bring the count of a source over its own. -/
theorem scanSourceFrames_within {expected observationCount : Nat}
    {previous : Option AppendSequenceV1}
    (h : observationCount + expected * maxObservations ≤ maxSegmentV1Observations) :
    Fails (scanSourceFrames storeId expected observationCount previous source)
      (· ≠ .bounds) := by
  have hinvalid : SegmentV1Error.invalidSource ≠ .bounds := by decide
  have hmismatch : SegmentV1Error.storeMismatch ≠ .bounds := by decide
  induction expected generalizing observationCount previous source with
  | zero =>
    unfold scanSourceFrames
    exact fails_bind (fails_refuse hinvalid) fun _ => fails_ok _
  | succ expected ih =>
    rw [Nat.add_mul, Nat.one_mul] at h
    unfold scanSourceFrames
    split
    next => exact fails_ok _
    next =>
      refine fails_bind (fails_refuse hinvalid) fun _ => ?_
      refine fails_bind (fails_mapError fun _ => hinvalid) fun frameLength => ?_
      refine fails_bind (fails_refuse hinvalid) fun _ => ?_
      refine fails_bind (fails_mapError fun _ => hinvalid) fun decoded => ?_
      refine fails_bind (fails_refuse hmismatch) fun _ => ?_
      refine fails_bind (fails_refuse hinvalid) fun _ => ?_
      refine fails_bind (fails_mapError fun _ => hinvalid) fun canonical => ?_
      refine fails_bind (fails_refuse hinvalid) fun _ => ?_
      have hobserved := decoded.envelope.lengths_le.1
      have hgo : refuse (maxSegmentV1Observations < observationCount +
          decoded.envelope.observations.length) SegmentV1Error.bounds = .ok () :=
        if_neg (by omega)
      dsimp only
      rw [hgo]
      refine fails_bind (fails_ok _) fun _ => ?_
      refine fails_bind (fails_mapError fun _ => hinvalid) fun sequence => ?_
      exact fails_bind (ih (by omega)) fun _ => fails_ok _

/-- A source within the bounds of a journal is not refused for a bound. -/
theorem scanSource_within (hlength : source.length ≤ maxActiveJournalBytes)
    (hcount : sealed.sequenceCutoff.val - sealed.sequenceFloor.val ≤ maxActiveJournalRecords) :
    Fails (scanSource storeId sealed source) (· ≠ .bounds) := by
  have hinvalid : SegmentV1Error.invalidSource ≠ .bounds := by decide
  have hmismatch : SegmentV1Error.storeMismatch ≠ .bounds := by decide
  have hlong : refuse (maxActiveJournalBytes < source.length) SegmentV1Error.bounds = .ok () :=
    if_neg (Nat.not_lt.mpr hlength)
  have hrecords : maxActiveJournalRecords * maxObservations = maxSegmentV1Observations := rfl
  have hmul := Nat.mul_le_mul_right maxObservations hcount
  unfold scanSource
  rw [hlong]
  refine fails_bind (fails_ok _) fun _ => ?_
  intro error herror
  rcases bind_error.mp herror with hmetadata | ⟨_, hmetadata, hrest⟩
  · exact fails_refuse (P := (· ≠ .bounds)) hinvalid error hmetadata
  rw [refuse_ok] at hmetadata
  simp only [not_or, Fin.not_le] at hmetadata
  obtain ⟨-, -, hordered, -⟩ := hmetadata
  have hlt : sealed.sequenceFloor.val < sealed.sequenceCutoff.val := hordered
  have hfew : refuse (sealed.sequenceCutoff.val - sealed.sequenceFloor.val = 0 ∨
      maxActiveJournalRecords < sealed.sequenceCutoff.val - sealed.sequenceFloor.val)
      SegmentV1Error.bounds = .ok () := if_neg (by omega)
  dsimp only at hrest
  rw [hfew] at hrest
  refine fails_bind (P := (· ≠ .bounds)) (fails_ok _) (fun _ => ?_) error hrest
  refine fails_bind (fails_mapError fun _ => hinvalid) fun decoded => ?_
  refine fails_bind (fails_refuse hmismatch) fun _ => ?_
  refine fails_bind (scanSourceFrames_within (by omega)) fun scanned => ?_
  exact fails_bind (fails_refuse hinvalid) fun _ => fails_ok _

/-- The machine's scan finds the frames of the scan, each at its place. -/
theorem scanned_of_machine {placed : List MachineSegment.PlacedFrame}
    (h : MachineSegment.scanSource storeId sealed source = .ok placed) :
    ∃ frames, scanSource storeId sealed source = .ok frames ∧
      placed = MachineSegment.placeFrames journalV1HeaderLen frames := by
  have hsimulates := MachineSegment.simulates_scanSource storeId sealed source
  rw [h] at hsimulates
  generalize scanSource storeId sealed source = result at hsimulates
  cases hsimulates with
  | @ok _ frames hplaced => exact ⟨frames, rfl, hplaced⟩

/-- A source within the bounds of a journal is not refused for a bound by the builder either. -/
theorem buildSegmentV1_within (hlength : source.length ≤ maxActiveJournalBytes)
    (hcount : sealed.sequenceCutoff.val - sealed.sequenceFloor.val ≤ maxActiveJournalRecords) :
    Fails (buildSegmentV1 storeId sealed source) (· ≠ .bounds) := by
  cases hscan : scanSource storeId sealed source with
  | error error =>
    have hbuilt : buildSegmentV1 storeId sealed source = .error error := by
      unfold buildSegmentV1 layOutSource
      rw [hscan]
      rfl
    rw [hbuilt]
    exact fails_error (scanSource_within hlength hcount error hscan)
  | ok frames =>
    rw [scanSource_built hscan]
    exact fails_ok _

/-- The builder's arithmetic is safe on every source and never refuses a valid one, whose artifact
is its sections within the bound; the parser's is safe on every byte string. -/
theorem segment_arithmetic_safe :
    (∀ storeId sealed source placed,
      MachineSegment.scanSource storeId sealed source = .ok placed →
        ∃ frames layout prepared,
          scanSource storeId sealed source = .ok frames ∧
          MachineSegment.layoutNew ⟨placed.length, (MachineSegment.groupIndices placed).length,
            (placed.map (·.observations.length)).sum⟩ (source.length - journalV1HeaderLen) =
              .ok layout ∧
          MachineSegment.buildSegmentV1 storeId sealed source = .ok prepared ∧
          buildSegmentV1 storeId sealed source = .ok prepared ∧
          layout.Contiguous ∧ layout.Sections prepared.bytes ∧
          prepared.bytes.length = layout.artifactLength ∧
          layout.artifactLength ≤ maxSegmentV1Bytes) ∧
      (∀ storeId sealed (source : Bytes), source.length ≤ maxActiveJournalBytes →
        sealed.sequenceCutoff.val - sealed.sequenceFloor.val ≤ maxActiveJournalRecords →
          MachineSegment.buildSegmentV1 storeId sealed source ≠ .error (.refused .bounds)) ∧
      (∀ storeId sealed source,
        MachineSegment.buildSegmentV1 storeId sealed source ≠ .error .overflow ∧
          MachineSegment.buildSegmentV1 storeId sealed source ≠ .error .outOfRange) ∧
      ∀ bytes storeId,
        MachineSegment.parseSegmentV1 bytes storeId ≠ .error .overflow ∧
          MachineSegment.parseSegmentV1 bytes storeId ≠ .error .outOfRange := by
  refine ⟨?_, ?_, ?_, ?_⟩
  · intro storeId sealed source placed hplaced
    obtain ⟨frames, hscan, rfl⟩ := scanned_of_machine hplaced
    obtain ⟨hsealed, hsource⟩ := scanSource_ok.mp hscan
    have hbuilt := scanSource_built hscan
    have hblocks := MachineSegment.length_sourceBlocks hsource
    have hrelated := MachineSegment.sourceGroups_related hsource
    have hlayout := SegmentLayout.new_ok.mpr ⟨hsealed.bounded, rfl⟩
    have hlaid : MachineSegment.layoutNew (groupsCount (groupFrames frames))
        (framesLength (groupsFrames (groupFrames frames))) =
          .ok (groupsLayout (groupFrames frames)) := by
      rw [MachineSegment.agrees_layoutNew _ _, hlayout]
      rfl
    refine ⟨frames, groupsLayout (groupFrames frames), _, hscan, ?_, ?_, hbuilt,
      SegmentCounts.layout_contiguous _ _, groupsBody_sections storeId sealed _, ?_,
      hsealed.bounded.artifactLength_le⟩
    · rw [MachineSegment.length_placeFrames, MachineSegment.sum_placeFrames, hrelated.length_eq,
        ← groupsCount_groupFrames, hblocks]
      exact hlaid
    · rw [MachineSegment.agrees_buildSegmentV1, hbuilt]
      rfl
    · exact (length_withChecksum _).trans length_groupsBody
  · intro storeId sealed source hlength hcount hrefused
    have hagrees := MachineSegment.agrees_buildSegmentV1 storeId sealed source
    rw [hrefused] at hagrees
    unfold Agrees lift at hagrees
    obtain ⟨error, herror, hbounds⟩ := mapError_error.mp hagrees.symm
    cases hbounds
    exact buildSegmentV1_within hlength hcount _ herror rfl
  · intro storeId sealed source
    exact (MachineSegment.agrees_buildSegmentV1 storeId sealed source).inside
  · intro bytes storeId
    exact (MachineSegment.agrees_parseSegmentV1 bytes storeId).inside

/-- The sample source holds records of two series and is within the bounds of a journal. -/
theorem segment_arithmetic_safe_sample :
    (∃ placed, MachineSegment.scanSource (sampleIdentity 1) sampleSealedSource sampleSource =
        .ok placed ∧ ∃ frames layout prepared,
      scanSource (sampleIdentity 1) sampleSealedSource sampleSource = .ok frames ∧
      frames.map (fun frame => (frame.seriesId, frame.appendSequence)) =
        [(sampleIdentity 1, 5), (sampleIdentity 2, 6), (sampleIdentity 1, 7)] ∧
      MachineSegment.layoutNew ⟨placed.length, (MachineSegment.groupIndices placed).length,
        (placed.map (·.observations.length)).sum⟩ (sampleSource.length - journalV1HeaderLen) =
          .ok layout ∧
      MachineSegment.buildSegmentV1 (sampleIdentity 1) sampleSealedSource sampleSource =
        .ok prepared ∧
      buildSegmentV1 (sampleIdentity 1) sampleSealedSource sampleSource = .ok prepared ∧
      layout.Contiguous ∧ layout.Sections prepared.bytes ∧
      prepared.bytes.length = layout.artifactLength ∧
      layout.artifactLength ≤ maxSegmentV1Bytes) ∧
      MachineSegment.buildSegmentV1 (sampleIdentity 1) sampleSealedSource sampleSource ≠
        .error (.refused .bounds) := by
  have hsealed := sampleFrames_sealed
  have hsimulates := MachineSegment.simulates_scanSource (sampleIdentity 1) sampleSealedSource
    sampleSource
  rw [sampleSource_scanned] at hsimulates
  generalize hplaced : MachineSegment.scanSource (sampleIdentity 1) sampleSealedSource
    sampleSource = run at hsimulates
  cases hsimulates with
  | @ok placed _ hrelated =>
    have hlength : sampleSource.length ≤ maxActiveJournalBytes := by
      have hmax := hsealed.sealable.length_le
      rw [hsealed.length_eq] at hmax
      rwa [sampleSource, List.length_append, length_encodeHeader, length_framesBytes]
    have hcount := hsealed.count_le
    rw [← hsealed.sealable.counted] at hcount
    obtain ⟨frames, layout, prepared, hscan, hsafe⟩ := segment_arithmetic_safe.1 _ _ _ _ hplaced
    rw [sampleSource_scanned] at hscan
    cases hscan
    exact ⟨⟨placed, rfl, sampleFrames, layout, prepared, sampleSource_scanned, by decide +kernel,
      hsafe⟩, segment_arithmetic_safe.2.1 _ _ _ hlength hcount⟩

end Historian
