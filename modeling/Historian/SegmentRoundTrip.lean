import Historian.SegmentParsed
import Historian.JournalBound

namespace Historian

open Wire Checks

variable {storeId : StoreId} {sealed : SealedGeneration}

theorem parseSegmentV1_ok {bytes : Bytes} {segment : SegmentV1} :
    parseSegmentV1 bytes storeId = .ok segment ↔ ∃ sealed grouped,
      SegmentForm storeId sealed grouped ∧ segment = segmentOf storeId sealed grouped ∧
        bytes = segment.bytes := by
  constructor
  · exact parse_sound
  · intro h
    obtain ⟨sealed, grouped, hform, rfl, rfl⟩ := h
    exact parse_complete hform

theorem groupsCount_groupFrames (frames : List SourceFrame) : groupsCount (groupFrames frames) =
    ⟨frames.length, (groupFrames frames).length, observationTotal frames⟩ := by
  have hperm := perm_groupFrames frames
  rw [groupsCount, hperm.length_eq, observationTotal_perm hperm]

/-- The layout of a source is that of its groups. -/
theorem layOutSource_ok {source : Bytes} {count : SegmentCounts} {layout : SegmentLayout}
    {grouped : List (SeriesId × List SourceFrame)} :
    layOutSource storeId sealed source = .ok (count, layout, grouped) ↔
      ∃ frames, SealedSource storeId sealed frames ∧
        source = encodeHeader storeId ++ framesBytes frames ∧
        SegmentForm storeId sealed grouped ∧ grouped = groupFrames frames ∧
        count = groupsCount grouped ∧ layout = groupsLayout grouped := by
  unfold layOutSource
  simp only [bind_ok, pure_ok, Prod.mk.injEq, scanSource_ok, SegmentLayout.new_ok]
  have hlength (frames : List SourceFrame) :
      (encodeHeader storeId ++ framesBytes frames).length - journalV1HeaderLen =
        framesLength (groupsFrames (groupFrames frames)) := by
    rw [List.length_append, length_encodeHeader, Nat.add_sub_cancel_left, length_framesBytes,
      framesLength_perm (perm_groupFrames frames)]
  constructor
  · intro h
    obtain ⟨frames, ⟨hsealed, rfl⟩, layout', ⟨hbounded, rfl⟩, rfl, rfl, rfl⟩ := h
    have hascending := hsealed.consecutive.ascending.1
    rw [hlength, ← groupsCount_groupFrames] at hbounded ⊢
    refine ⟨frames, hsealed, rfl, ⟨hascending.grouped, ?_, hbounded⟩, rfl, rfl, rfl⟩
    rw [hascending.merge_groupFrames]
    exact hsealed
  · intro h
    obtain ⟨frames, hsealed, rfl, hform, rfl, rfl, rfl⟩ := h
    refine ⟨frames, ⟨hsealed, rfl⟩, groupsLayout (groupFrames frames), ?_,
      (groupsCount_groupFrames frames).symm, rfl, rfl⟩
    rw [hlength, ← groupsCount_groupFrames]
    exact ⟨hform.bounded, rfl⟩

theorem sum_framesLength (grouped : List (SeriesId × List SourceFrame)) :
    (grouped.map fun group => framesLength group.2).sum = framesLength (groupsFrames grouped) := by
  induction grouped with
  | nil => rfl
  | cons group rest ih =>
    obtain ⟨seriesId, frames⟩ := group
    rw [List.map_cons, List.sum_cons, ih, groupsFrames_cons, framesLength_append]

/-- The builder writes the segment of the groups that it laid out. -/
theorem buildSegmentV1_ok {source : Bytes} {prepared : PreparedSegmentV1} :
    buildSegmentV1 storeId sealed source = .ok prepared ↔
      ∃ count layout grouped, layOutSource storeId sealed source = .ok (count, layout, grouped) ∧
        prepared = ⟨(segmentOf storeId sealed grouped).bytes,
          (segmentOf storeId sealed grouped).inspection⟩ := by
  unfold buildSegmentV1
  simp only [bind_ok, exists_unit, refuse_ok, pure_ok, Prod.exists, not_or, not_not]
  constructor
  · intro h
    obtain ⟨count, layout, grouped, hlaid, -, rfl⟩ := h
    have hlaid' := hlaid
    obtain ⟨frames, -, -, -, -, rfl, rfl⟩ := layOutSource_ok.mp hlaid'
    exact ⟨_, _, grouped, hlaid, rfl⟩
  · intro h
    obtain ⟨count, layout, grouped, hlaid, rfl⟩ := h
    have hlaid' := hlaid
    obtain ⟨frames, -, -, -, -, rfl, rfl⟩ := layOutSource_ok.mp hlaid'
    refine ⟨_, _, grouped, hlaid, ⟨?_, ?_⟩, rfl⟩
    · rw [sum_framesLength]
      rfl
    · simp only [segmentDirectories, length_observations]
      rfl

theorem length_le_groupsFrames {grouped : List (SeriesId × List SourceFrame)}
    (h : ∀ group ∈ grouped, group.2 ≠ []) : grouped.length ≤ (groupsFrames grouped).length := by
  induction grouped with
  | nil => exact Nat.zero_le _
  | cons group rest ih =>
    obtain ⟨seriesId, frames⟩ := group
    obtain ⟨hframes, hrest⟩ := List.forall_mem_cons.mp h
    have hpos := List.length_pos_iff.mpr hframes
    have hle := ih hrest
    rw [groupsFrames_cons, List.length_append, List.length_cons]
    dsimp only at hpos
    omega

/-- The counts of a valid source are within the bounds of a layout. -/
theorem SealedSource.bounded {frames : List SourceFrame} (h : SealedSource storeId sealed frames) :
    (groupsCount (groupFrames frames)).Bounded
      (framesLength (groupsFrames (groupFrames frames))) := by
  have hperm := perm_groupFrames frames
  have hnonempty := h.sealable.nonempty
  have hcounted := h.sealable.counted
  have hheader := h.sealable.header_lt
  have hmax := h.sealable.length_le
  have hlength := h.length_eq
  rw [Fin.lt_def] at hnonempty
  rw [h.sealable.whole] at hheader
  have hsome : groupFrames frames ≠ [] := by
    intro hnone
    have heq := hperm.length_eq
    rw [hnone] at heq
    simp only [groupsFrames, List.flatMap_nil, List.length_nil] at heq
    omega
  rw [groupsCount_groupFrames, framesLength_perm hperm]
  constructor
  · dsimp only
    omega
  · exact h.count_le
  · exact List.length_pos_iff.mpr hsome
  · have hle := length_le_groupsFrames fun group hgroup =>
      (@mem_groupFrames frames _ hgroup).2
    rwa [hperm.length_eq] at hle
  · exact h.observations_le
  · omega
  · omega

/-- A valid source is laid out and built. -/
theorem scanSource_laid {source : Bytes} {frames : List SourceFrame}
    (h : scanSource storeId sealed source = .ok frames) :
    layOutSource storeId sealed source = .ok (groupsCount (groupFrames frames),
      groupsLayout (groupFrames frames), groupFrames frames) := by
  obtain ⟨hsealed, rfl⟩ := scanSource_ok.mp h
  have hascending := hsealed.consecutive.ascending.1
  refine layOutSource_ok.mpr ⟨frames, hsealed, rfl, ⟨hascending.grouped, ?_, hsealed.bounded⟩, rfl,
    rfl, rfl⟩
  rw [hascending.merge_groupFrames]
  exact hsealed

theorem scanSource_built {source : Bytes} {frames : List SourceFrame}
    (h : scanSource storeId sealed source = .ok frames) :
    buildSegmentV1 storeId sealed source =
      .ok ⟨(segmentOf storeId sealed (groupFrames frames)).bytes,
        (segmentOf storeId sealed (groupFrames frames)).inspection⟩ :=
  buildSegmentV1_ok.mpr ⟨_, _, _, scanSource_laid h, rfl⟩

/-- A valid record has a frame. -/
theorem SourceFrame.holds_of_valid {record : DecodedAdmissionV1}
    (hvalid : validateDecoded record = .ok ()) (hpos : 0 < record.appendSequence.val)
    (hstore : record.storeId = storeId) :
    (⟨(encodeDecodedAdmissionFrameV1 record).toOption.getD [], record⟩ : SourceFrame).Holds
      storeId := by
  obtain ⟨bytes, hencode, hdecode⟩ := exists_frame_of_valid hvalid hpos
  refine ⟨?_, hstore⟩
  rw [hencode]
  exact hdecode

theorem framesLength_le {frames : List SourceFrame} (h : ∀ frame ∈ frames, frame.Holds storeId) :
    framesLength frames ≤ frames.length *
      (journalV1FramePrefixLen + maxAdmissionPayloadV1 + journalV1FrameCrcLen) := by
  have hlengths : ∀ n ∈ frames.map (·.bytes.length),
      n ≤ journalV1FramePrefixLen + maxAdmissionPayloadV1 + journalV1FrameCrcLen := by
    intro n hn
    obtain ⟨frame, hframe, rfl⟩ := List.mem_map.mp hn
    exact length_le_of_decode (h frame hframe).decodes
  have hsum := List.sum_le_card_nsmul _ _ hlengths
  rwa [List.length_map, smul_eq_mul] at hsum

theorem framesLength_pos {frames : List SourceFrame} (h : ∀ frame ∈ frames, frame.Holds storeId)
    (hne : frames ≠ []) : 0 < framesLength frames := by
  cases frames with
  | nil => exact absurd rfl hne
  | cons frame rest =>
    have hfirst := (h frame List.mem_cons_self).length_pos
    rw [framesLength, List.map_cons, List.sum_cons]
    omega

theorem mapM_ok {α β ε : Type} {f : α → Except ε β} {g : α → β} {xs : List α}
    (h : ∀ x ∈ xs, f x = .ok (g x)) : xs.mapM f = .ok (xs.map g) := by
  induction xs with
  | nil => rfl
  | cons x xs ih =>
    obtain ⟨hx, hxs⟩ := List.forall_mem_cons.mp h
    rw [List.mapM_cons, hx, ih hxs]
    rfl

/-- The frames that the append directory names are those of the source in order. -/
theorem segmentOf_frames (storeId : StoreId) (sealed : SealedGeneration)
    (grouped : List (SeriesId × List SourceFrame)) :
    (segmentOf storeId sealed grouped).appends.mapM (segmentOf storeId sealed grouped).frameBytes =
      .ok ((mergeGroups grouped).map (·.bytes)) := by
  have happends : (segmentOf storeId sealed grouped).appends =
      (sortedLocated (groupsLayout grouped).blocksOffset grouped).map (·.1) := by
    rw [sortedLocated_locations, ← appends_blockDirectories]
    rfl
  have hslice : ∀ entry ∈ sortedLocated (groupsLayout grouped).blocksOffset grouped,
      (segmentOf storeId sealed grouped).frameBytes entry.1 = .ok entry.2.bytes := by
    intro entry hentry
    have hlocated := segmentOf_locatedIn storeId sealed grouped entry (mem_sortedLocated.mp hentry)
    have hmem : entry.1 ∈ (segmentOf storeId sealed grouped).appends := by
      rw [happends]
      exact List.mem_map_of_mem hentry
    unfold SegmentV1.frameBytes
    rw [checkedSlice_eq hlocated.inside, hlocated.frame]
    simp only [then_ok, refuse_ok, pure_ok, not_not]
    exact ⟨hmem, trivial⟩
  have hall := mapM_ok hslice
  rw [happends, List.mapM_map, ← sortedLocated_frames (groupsLayout grouped).blocksOffset grouped,
    List.map_map]
  exact hall

/-- What is built is parsed back with the directories that the builder wrote and the source that it
read, and what is parsed is built again, byte for byte, from the source that it holds. -/
theorem segment_build_parse_inverse :
    (∀ storeId sealed source prepared, buildSegmentV1 storeId sealed source = .ok prepared →
      ∃ segment count layout grouped frames,
        parseSegmentV1 prepared.bytes storeId = .ok segment ∧
        segment.inspection = prepared.inspection ∧
        layOutSource storeId sealed source = .ok (count, layout, grouped) ∧
        SegmentDirectories.mk segment.series segment.appends segment.observations =
          segmentDirectories layout grouped ∧
        segment.appends.mapM segment.frameBytes = .ok frames ∧
        encodeHeader storeId ++ frames.flatten = source) ∧
    (∀ storeId bytes segment, parseSegmentV1 bytes storeId = .ok segment →
      ∃ frames, segment.appends.mapM segment.frameBytes = .ok frames ∧
        buildSegmentV1 storeId segment.inspection.sealedGeneration
          (encodeHeader storeId ++ frames.flatten) = .ok ⟨bytes, segment.inspection⟩) := by
  have hflatten (frames : List SourceFrame) :
      (frames.map (·.bytes)).flatten = framesBytes frames := (List.flatMap_def ..).symm
  constructor
  · intro storeId sealed source prepared h
    obtain ⟨count, layout, grouped, hlaid, rfl⟩ := buildSegmentV1_ok.mp h
    have hlaid' := hlaid
    obtain ⟨frames, hsealed, rfl, hform, rfl, rfl, rfl⟩ := layOutSource_ok.mp hlaid'
    refine ⟨segmentOf storeId sealed (groupFrames frames), _, _, _, _, parse_complete hform, rfl,
      hlaid, rfl, segmentOf_frames _ _ _, ?_⟩
    rw [hflatten, hsealed.consecutive.ascending.1.merge_groupFrames]
  · intro storeId bytes segment h
    obtain ⟨sealed, grouped, hform, rfl, rfl⟩ := parse_sound h
    refine ⟨_, segmentOf_frames _ _ _, ?_⟩
    rw [hflatten, buildSegmentV1_ok]
    refine ⟨_, _, grouped, layOutSource_ok.mpr ⟨mergeGroups grouped, hform.source, rfl, hform,
      hform.groups.groupFrames_merge.symm, rfl, rfl⟩, rfl⟩

section Samples

/-- A record of the sample store, of any of its series, with the given observations. -/
def sampleRecord (sequence : U64) (series : UInt8) (observations : List Observation)
    (h : validateObserved .sampled observations [] = .ok ()) : DecodedAdmissionV1 :=
  { sampleDecoded with
    appendSequence := sequence
    declaration := { sampleDecoded.declaration with seriesId := sampleIdentity series }
    envelope := ⟨⟨sampleIdentity series, sampleIdentity 1, .sampled⟩, .observed observations [], h⟩
    retry := { sampleDecoded.retry with seriesId := sampleIdentity series }
    evidence := .observed (sampleLineages observations) [] }

theorem sampleSingle_observed :
    validateObserved .sampled [sampleObservationAt 1 0] [] = .ok () := by
  decide +kernel

theorem sampleTriple_observed : validateObserved .sampled
    [sampleObservationAt 1 0, sampleObservationAt 2 0, sampleObservationAt 3 10] [] = .ok () := by
  decide +kernel

/-- Two records of one series with a record of another between them. -/
def sampleRecords : List DecodedAdmissionV1 :=
  [sampleRecord 5 1 _ sampleTriple_observed, sampleRecord 6 2 _ sampleSingle_observed,
    sampleRecord 7 1 _ sampleSingle_observed]

def sampleFrames : List SourceFrame :=
  sampleRecords.map fun record =>
    ⟨(encodeDecodedAdmissionFrameV1 record).toOption.getD [], record⟩

def sampleSource : Bytes := encodeHeader (sampleIdentity 1) ++ framesBytes sampleFrames

/-- The records are sealed behind the sequence 4. -/
def sampleSealedSource : SealedGeneration :=
  ⟨2, 4, 7, Fin.ofNat _ sampleSource.length, 1, Fin.ofNat _ sampleSource.length,
    crc32c sampleSource⟩

theorem sampleFrames_hold : ∀ frame ∈ sampleFrames, frame.Holds (sampleIdentity 1) := by
  have hrecords : ∀ record ∈ sampleRecords, validateDecoded record = .ok () ∧
      0 < record.appendSequence.val ∧ record.storeId = sampleIdentity 1 := by decide +kernel
  intro frame hframe
  obtain ⟨record, hrecord, rfl⟩ := List.mem_map.mp hframe
  obtain ⟨hvalid, hpos, hstore⟩ := hrecords record hrecord
  exact SourceFrame.holds_of_valid hvalid hpos hstore

theorem sampleFrames_bound :
    journalV1HeaderLen < journalV1HeaderLen + framesLength sampleFrames ∧
      journalV1HeaderLen + framesLength sampleFrames ≤ maxActiveJournalBytes := by
  have hcount : sampleFrames.length = 3 := rfl
  have hsome := framesLength_pos sampleFrames_hold (by simp [← List.length_pos_iff, hcount])
  have hlength := framesLength_le sampleFrames_hold
  rw [hcount] at hlength
  have hthree : journalV1HeaderLen +
      3 * (journalV1FramePrefixLen + maxAdmissionPayloadV1 + journalV1FrameCrcLen) ≤
        maxActiveJournalBytes := by decide
  exact ⟨Nat.lt_add_of_pos_right hsome, (Nat.add_le_add_left hlength _).trans hthree⟩

theorem length_sampleSource :
    sampleSource.length = journalV1HeaderLen + framesLength sampleFrames := by
  rw [sampleSource, List.length_append, length_encodeHeader, length_framesBytes]

theorem sampleSealedSource_length : sampleSealedSource.artifactLength.val =
    journalV1HeaderLen + framesLength sampleFrames := by
  have hfield : sampleSealedSource.artifactLength = Fin.ofNat _ sampleSource.length := rfl
  have hfits : maxActiveJournalBytes < 2 ^ 64 := by decide
  rw [hfield, Fin.val_ofNat, length_sampleSource]
  exact Nat.mod_eq_of_lt (sampleFrames_bound.2.trans_lt hfits)

theorem sampleSealedSource_sealable : sampleSealedSource.Sealable sampleFrames.length := by
  have hwhole : sampleSealedSource.endOffset = sampleSealedSource.artifactLength := rfl
  have hordered : sampleSealedSource.sequenceFloor < sampleSealedSource.sequenceCutoff := by
    change (4 : U64) < 7
    decide
  refine ⟨by decide, by decide, hordered, hwhole, ?_, ?_, rfl⟩
  · rw [hwhole, sampleSealedSource_length]
    exact sampleFrames_bound.1
  · rw [sampleSealedSource_length]
    exact sampleFrames_bound.2

theorem sampleFrames_sealed : SealedSource (sampleIdentity 1) sampleSealedSource sampleFrames := by
  have hchecksum : crc32c (encodeHeader (sampleIdentity 1) ++ framesBytes sampleFrames) =
      sampleSealedSource.artifactChecksum := by
    simp only [sampleSealedSource, sampleSource]
  exact ⟨sampleSealedSource_sealable, by decide, sampleFrames_hold, ⟨rfl, rfl, rfl, trivial⟩,
    by decide +kernel, sampleSealedSource_length, hchecksum⟩

theorem sampleSource_scanned :
    scanSource (sampleIdentity 1) sampleSealedSource sampleSource = .ok sampleFrames :=
  scanSource_ok.mpr ⟨sampleFrames_sealed, rfl⟩

/-- The two frames of the first series become one group, and the source gets its order back. -/
theorem segment_build_parse_inverse_sample : ∃ prepared segment grouped frames,
    buildSegmentV1 (sampleIdentity 1) sampleSealedSource sampleSource = .ok prepared ∧
      parseSegmentV1 prepared.bytes (sampleIdentity 1) = .ok segment ∧
      segment.inspection = prepared.inspection ∧
      grouped.map (fun group => (group.1, group.2.map (·.appendSequence))) =
        [(sampleIdentity 1, [5, 7]), (sampleIdentity 2, [6])] ∧
      SegmentDirectories.mk segment.series segment.appends segment.observations =
        segmentDirectories (groupsLayout grouped) grouped ∧
      segment.appends.mapM segment.frameBytes = .ok frames ∧
      encodeHeader (sampleIdentity 1) ++ frames.flatten = sampleSource ∧
      buildSegmentV1 (sampleIdentity 1) segment.inspection.sealedGeneration
        (encodeHeader (sampleIdentity 1) ++ frames.flatten) =
          .ok ⟨prepared.bytes, segment.inspection⟩ := by
  have hbuilt := scanSource_built sampleSource_scanned
  obtain ⟨segment, count, layout, grouped, frames, hparsed, hinspection, hlaid, hdirectories,
    hframes, hsource⟩ := segment_build_parse_inverse.1 _ _ _ _ hbuilt
  rw [scanSource_laid sampleSource_scanned] at hlaid
  cases hlaid
  obtain ⟨again, hagain, hrebuilt⟩ := segment_build_parse_inverse.2 _ _ _ hparsed
  rw [hframes] at hagain
  cases hagain
  exact ⟨_, segment, _, frames, hbuilt, hparsed, hinspection, by decide +kernel, hdirectories,
    hframes, hsource, hrebuilt⟩

end Samples

end Historian
