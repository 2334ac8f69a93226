import Historian.SegmentSelection

namespace Historian

open Wire Checks Sorting

instance : Std.TransCmp selectionOrder :=
  @transCmp_then _ _
    (transCmp_descending fun selected : SelectedObservation => selected.observation.rawOrderKey) _
    (@transCmp_then _ _
      (transCmp_descending fun selected : SelectedObservation =>
        selected.admission.appendSequence) _
      (transCmp_key SelectedObservation.ordinal))

theorem series_keys (blockCursor recentCursor : Nat)
    (grouped : List (SeriesId × List SourceFrame)) :
    (blockDirectories blockCursor recentCursor grouped).series.map (·.seriesId) =
      grouped.map (·.1) := by
  induction grouped generalizing blockCursor recentCursor with
  | nil => rfl
  | cons group rest ih =>
    obtain ⟨seriesId, frames⟩ := group
    rw [series_blockDirectories, List.map_cons, ih, List.map_cons]

/-- The run of a series in the recent directory, behind the runs in `front`. -/
structure RecentRun (blockCursor recentCursor : Nat)
    (grouped : List (SeriesId × List SourceFrame)) (seriesId : SeriesId)
    (frames : List SourceFrame) (entry : SegmentSeriesEntryV1)
    (front behind : List ObservationLocation) (cursor : Nat) : Prop where
  listed : entry ∈ (blockDirectories blockCursor recentCursor grouped).series
  series : entry.seriesId = seriesId
  count : entry.observationCount = observationTotal frames
  length : entry.recentLength = observationTotal frames * segmentV1ObservationEntryLen
  offset : entry.recentOffset = recentCursor + front.length * segmentV1ObservationEntryLen
  observations : (blockDirectories blockCursor recentCursor grouped).observations =
    front ++ (sortRecent ((locateFrames seriesId cursor 0 frames).flatMap locateObservations) ++
      behind)
  located : ∀ located ∈ locateFrames seriesId cursor 0 frames,
    located ∈ locateGroups blockCursor grouped

/-- Every group has its run. -/
theorem recentRun (blockCursor recentCursor : Nat) {grouped : List (SeriesId × List SourceFrame)}
    {seriesId : SeriesId} {frames : List SourceFrame} (h : (seriesId, frames) ∈ grouped) :
    ∃ entry front behind cursor,
      RecentRun blockCursor recentCursor grouped seriesId frames entry front behind cursor := by
  induction grouped generalizing blockCursor recentCursor with
  | nil => cases h
  | cons group rest ih =>
    rcases List.mem_cons.mp h with rfl | hrest
    · refine ⟨⟨seriesId, blockCursor, framesLength frames, frames.length, observationTotal frames,
        recentCursor, observationTotal frames * segmentV1ObservationEntryLen⟩, [], _, blockCursor,
        ?_, rfl, rfl, rfl, ?_, rfl, ?_⟩
      · rw [series_blockDirectories]
        exact List.mem_cons_self
      · simp
      · intro located hlocated
        exact List.mem_append_left _ hlocated
    · obtain ⟨own, ownFrames⟩ := group
      obtain ⟨entry, front, behind, cursor, hrun⟩ := ih (blockCursor + framesLength ownFrames)
        (recentCursor + observationTotal ownFrames * segmentV1ObservationEntryLen) hrest
      refine ⟨entry, sortRecent ((locateFrames own blockCursor 0 ownFrames).flatMap
        locateObservations) ++ front, behind, cursor, ?_, hrun.series, hrun.count, hrun.length,
        ?_, ?_, ?_⟩
      · rw [series_blockDirectories]
        exact List.mem_cons_of_mem _ hrun.listed
      · rw [hrun.offset, List.length_append, length_recent, Nat.add_mul, Nat.add_assoc]
      · have hbehind := hrun.observations
        simp only [blockDirectories, length_recent]
        rw [hbehind, List.append_assoc]
      · intro located hlocated
        exact List.mem_append_right _ (hrun.located located hlocated)

section Run

variable (seriesId : SeriesId) (cursor : Nat) (frames : List SourceFrame)

/-- The entries of a series with their observations, in the recent order. -/
def recentPairs : List (ObservationLocation × SelectedObservation) :=
  ((locateFrames seriesId cursor 0 frames).flatMap locatePairs).insertionSort fun left right =>
    (selectionOrder left.2 right.2).isLE

theorem mem_recentPairs {pair : ObservationLocation × SelectedObservation} :
    pair ∈ recentPairs seriesId cursor frames ↔
      ∃ located ∈ locateFrames seriesId cursor 0 frames, pair ∈ locatePairs located := by
  rw [recentPairs, List.mem_insertionSort, List.mem_flatMap]

/-- The directory compares the entries as the selection compares the observations. -/
theorem recentPairs_entries : (recentPairs seriesId cursor frames).map (·.1) =
    sortRecent ((locateFrames seriesId cursor 0 frames).flatMap locateObservations) := by
  have hentries : ((locateFrames seriesId cursor 0 frames).flatMap locatePairs).map (·.1) =
      (locateFrames seriesId cursor 0 frames).flatMap locateObservations := by
    rw [List.map_flatMap]
    simp only [locatePairs_entries]
  have horder : ∀ pair ∈ (locateFrames seriesId cursor 0 frames).flatMap locatePairs,
      pair.1.rawOrderKey = pair.2.observation.rawOrderKey ∧
        pair.1.appendSequence = pair.2.admission.appendSequence ∧
        pair.1.observationOrdinal = pair.2.ordinal := by
    intro pair hpair
    obtain ⟨located, hlocated, hmem⟩ := List.mem_flatMap.mp hpair
    obtain ⟨hadmission, -, hentry⟩ := mem_locatePairs hmem
    have hsequence := (locateFrames_sequence located hlocated).1
    rw [hentry, hadmission]
    exact ⟨rfl, hsequence, rfl⟩
  rw [← hentries]
  apply List.map_insertionSort
  intro left hleft right hright
  obtain ⟨hkey, hsequence, hordinal⟩ := horder left hleft
  obtain ⟨hkey', hsequence', hordinal'⟩ := horder right hright
  unfold recentOrder selectionOrder
  rw [hkey, hkey', hsequence, hsequence', hordinal, hordinal']

theorem recentPairs_selected : (recentPairs seriesId cursor frames).map (·.2) =
    (frames.flatMap fun frame => selectFrom frame.admission).insertionSort fun left right =>
      (selectionOrder left right).isLE := by
  have hselected : ((locateFrames seriesId cursor 0 frames).flatMap locatePairs).map (·.2) =
      frames.flatMap fun frame => selectFrom frame.admission := by
    rw [List.map_flatMap]
    simp only [locatePairs_selected]
    have hframes := locateFrames_frames seriesId cursor 0 frames
    conv_rhs => rw [← hframes, List.flatMap_map]
  rw [← hselected]
  apply List.map_insertionSort
  intro left _ right _
  exact Iff.rfl

end Run

section Query

variable {storeId : StoreId} {sealed : SealedGeneration}
  {grouped : List (SeriesId × List SourceFrame)}

/-- The observations of a series are those of its group. -/
theorem Grouped.seriesObservations (h : Grouped grouped) (seriesId : SeriesId) :
    seriesObservations seriesId ((mergeGroups grouped).map (·.admission)) =
      ((SortedMap.get? seriesId grouped).getD []).flatMap fun frame =>
        selectFrom frame.admission := by
  rw [← h.ownFrames_merge, Historian.seriesObservations, List.filter_map, List.flatMap_map]
  rfl

/-- The series directory can be searched for every series. -/
theorem Grouped.searchable (h : Grouped grouped) (blockCursor recentCursor : Nat)
    (seriesId : SeriesId) : BinarySearch.Searchable
      (fun entry : SegmentSeriesEntryV1 => compare entry.seriesId.bytes seriesId.bytes)
      (blockDirectories blockCursor recentCursor grouped).series := by
  apply BinarySearch.searchable_key (fun entry : SegmentSeriesEntryV1 => entry.seriesId.bytes)
  have hkeys : (grouped.map (·.1)).Pairwise fun first second =>
      compare first.bytes second.bytes = .lt := by
    rw [List.pairwise_map]
    refine List.Pairwise.imp ?_ h.ordered
    intro first second hlt
    exact compare_bytes.mpr (Identity.lt_iff.mp hlt)
  rw [← series_keys blockCursor recentCursor, List.pairwise_map] at hkeys
  exact hkeys

variable (h : SegmentForm storeId sealed grouped)

include h

/-- The records that the append directory names are those of the source in order. -/
theorem SegmentForm.admissions :
    (segmentOf storeId sealed grouped).appends.mapM (segmentOf storeId sealed grouped).decodeFrame =
      .ok ((mergeGroups grouped).map (·.admission)) := by
  have hdecode : ∀ entry ∈ sortedLocated (groupsLayout grouped).blocksOffset grouped,
      (segmentOf storeId sealed grouped).decodeFrame entry.1 = .ok entry.2.admission := by
    intro entry hentry
    have hmem := mem_sortedLocated.mp hentry
    have hin := segmentOf_locatedIn storeId sealed grouped entry hmem
    have hlisted : entry.1 ∈ (segmentOf storeId sealed grouped).appends := by
      rw [segmentOf_appends]
      exact List.mem_map_of_mem hentry
    unfold SegmentV1.decodeFrame SegmentV1.frameBytes
    rw [checkedSlice_eq hin.inside, hin.frame]
    simp only [exists_unit, refuse_ok, bind_ok, pure_ok, not_not]
    refine ⟨entry.2.bytes, ⟨hlisted, rfl⟩, ?_⟩
    rw [(h.holds_located hmem).decodes]
    rfl
  have hall := mapM_ok hdecode
  rw [segmentOf_appends, List.mapM_map,
    ← sortedLocated_frames (groupsLayout grouped).blocksOffset grouped, List.map_map]
  exact hall

/-- A query over the segment shows the selection, up to its limit. -/
theorem SegmentForm.query (query : SegmentObservationQueryV1) : ∃ result,
    (segmentOf storeId sealed grouped).queryObservationsV1 query = .ok result ∧
      result.seriesId = query.seriesId ∧ result.interval = query.interval ∧
      result.requestedLimit = query.limit ∧
      List.Forall₂ SegmentObservationQueryItemV1.Shows result.items
        ((query.selection ((mergeGroups grouped).map (·.admission))).take query.limit) ∧
      result.isTruncated = decide (query.limit <
        (query.selection ((mergeGroups grouped).map (·.admission))).length) := by
  have hsearchable := h.groups.searchable (groupsLayout grouped).blocksOffset
    (groupsLayout grouped).recentOffset query.seriesId
  have hselection : query.selection ((mergeGroups grouped).map (·.admission)) =
      ((((SortedMap.get? query.seriesId grouped).getD []).flatMap fun frame =>
        selectFrom frame.admission).insertionSort fun left right =>
          (selectionOrder left right).isLE).filter fun selected =>
            query.admits selected.observation.times.effective := by
    rw [filter_insertionSort, ← h.groups.seriesObservations]
    rfl
  cases hgroup : SortedMap.get? query.seriesId grouped with
  | none =>
    rw [hgroup] at hselection
    have hempty : query.selection ((mergeGroups grouped).map (·.admission)) = [] := hselection
    have hnone : BinarySearch.find (fun entry : SegmentSeriesEntryV1 =>
        compare entry.seriesId.bytes query.seriesId.bytes)
          (segmentOf storeId sealed grouped).series = none := by
      rw [Option.eq_none_iff_forall_ne_some]
      intro entry hfound
      obtain ⟨hentry, heq⟩ := BinarySearch.find_some hfound
      have hkey := Identity.eq_of_bytes (Std.compare_eq_iff_eq.mp heq)
      have hlisted : entry.seriesId ∈ grouped.map (·.1) := by
        rw [← series_keys (groupsLayout grouped).blocksOffset (groupsLayout grouped).recentOffset]
        exact List.mem_map_of_mem hentry
      obtain ⟨group, hmem, hown⟩ := List.mem_map.mp hlisted
      have hget := h.groups.ordered.get?_of_mem Identity.lt_irrefl hmem
      rw [hown, hkey, hgroup] at hget
      cases hget
    refine ⟨⟨query.seriesId, query.interval, query.limit, [], false⟩, ?_, rfl, rfl, rfl, ?_, ?_⟩
    · unfold SegmentV1.queryObservationsV1
      rw [hnone]
      rfl
    · rw [hempty, List.take_nil]
      exact .nil
    · rw [hempty]
      rfl
  | some frames =>
    have hmem : (query.seriesId, frames) ∈ grouped := SortedMap.mem_of_get? hgroup
    rw [hgroup, Option.getD_some] at hselection
    obtain ⟨entry, front, behind, cursor, hrun⟩ := recentRun (groupsLayout grouped).blocksOffset
      (groupsLayout grouped).recentOffset hmem
    rw [← recentPairs_selected query.seriesId cursor] at hselection
    have hfound : BinarySearch.find (fun entry : SegmentSeriesEntryV1 =>
        compare entry.seriesId.bytes query.seriesId.bytes)
          (segmentOf storeId sealed grouped).series = some entry :=
      BinarySearch.find_mem hsearchable hrun.listed (by simp [hrun.series])
    have hruns : (segmentOf storeId sealed grouped).observations =
        front ++ ((recentPairs query.seriesId cursor frames).map (·.1) ++ behind) := by
      rw [recentPairs_entries]
      exact hrun.observations
    have hlength : ((recentPairs query.seriesId cursor frames).map (·.1)).length =
        observationTotal frames := by
      rw [recentPairs_entries, length_recent]
    have hstart : (entry.recentOffset - (groupsLayout grouped).recentOffset) /
        segmentV1ObservationEntryLen = front.length := by
      rw [hrun.offset, Nat.add_sub_cancel_left]
      exact Nat.mul_div_cancel _ (by decide)
    have hentries : ((segmentOf storeId sealed grouped).observations.drop front.length).take
        (observationTotal frames) = (recentPairs query.seriesId cursor frames).map (·.1) := by
      rw [hruns, List.drop_left, List.take_left' hlength]
    have hpairs : ∀ pair ∈ recentPairs query.seriesId cursor frames,
        ∃ located ∈ segmentLocated grouped, located.1.seriesId = query.seriesId ∧
          located.2.seriesId = query.seriesId ∧ pair ∈ locatePairs located := by
      intro pair hpair
      obtain ⟨located, hlocated, hin⟩ := (mem_recentPairs _ _ _).mp hpair
      have hframe : located.2 ∈ frames := by
        rw [← locateFrames_frames query.seriesId cursor 0 frames]
        exact List.mem_map_of_mem hlocated
      exact ⟨located, hrun.located located hlocated,
        (locateFrames_sequence located hlocated).2,
        h.groups.series (query.seriesId, frames) hmem located.2 hframe, hin⟩
    have hcache : CacheSound grouped [] := by
      intro entry hentry
      cases hentry
    have hroom : ([] : List SegmentObservationQueryItemV1).length ≤ query.limit := Nat.zero_le _
    obtain ⟨found, hwalk, hshown⟩ := h.walkEntries hpairs hcache hroom
    rw [← hselection, List.length_nil, Nat.zero_add, List.nil_append] at hwalk
    rw [← hselection, List.length_nil, Nat.sub_zero] at hshown
    refine ⟨⟨query.seriesId, query.interval, query.limit, found, decide (query.limit <
      (query.selection ((mergeGroups grouped).map (·.admission))).length)⟩, ?_, rfl, rfl, rfl,
      hshown, rfl⟩
    have hsize : front.length + observationTotal frames ≤
        (segmentOf storeId sealed grouped).observations.length := by
      rw [hruns, List.length_append, List.length_append, hlength]
      omega
    have hinspection : (segmentOf storeId sealed grouped).inspection.recentDirectoryOffset =
        (groupsLayout grouped).recentOffset := rfl
    unfold SegmentV1.queryObservationsV1
    rw [hfound]
    dsimp only
    rw [hinspection, hstart, hrun.count, hrun.length, hentries]
    simp only [then_ok, refuse_ok, not_lt, not_not]
    refine ⟨?_, ?_, trivial, hsize, ?_⟩
    · rw [hrun.offset]
      omega
    · rw [hrun.offset, Nat.add_sub_cancel_left]
      exact Nat.mul_mod_left _ _
    · by_cases hempty : (recentPairs query.seriesId cursor frames).map (·.1) = []
      · rw [if_pos hempty]
        rw [hempty] at hwalk
        unfold SegmentV1.walkEntries at hwalk
        rw [pure_ok, Prod.mk.injEq] at hwalk
        rw [← hwalk.1, ← hwalk.2]
        rfl
      · rw [if_neg hempty, hwalk]
        rfl

end Query

/-- Over every accepted artifact a query shows the first observations of the selection from all its
records, each with its lineage, and says that it is truncated when the selection is longer. -/
theorem segment_query_eq_selection {storeId : StoreId} {bytes : Bytes} {segment : SegmentV1}
    (h : parseSegmentV1 bytes storeId = .ok segment) : ∃ admissions,
    segment.appends.mapM segment.decodeFrame = .ok admissions ∧
      ∀ query : SegmentObservationQueryV1, ∃ result,
        segment.queryObservationsV1 query = .ok result ∧
        result.seriesId = query.seriesId ∧ result.interval = query.interval ∧
        result.requestedLimit = query.limit ∧
        List.Forall₂ SegmentObservationQueryItemV1.Shows result.items
          ((query.selection admissions).take query.limit) ∧
        result.isTruncated = decide (query.limit < (query.selection admissions).length) := by
  obtain ⟨sealed, grouped, hform, rfl, -⟩ := parse_sound h
  exact ⟨_, hform.admissions, hform.query⟩

/-- The first two observations of the sample series within the first five seconds. -/
def sampleQuery : SegmentObservationQueryV1 :=
  ⟨sampleIdentity 1, some ⟨sampleTime, ⟨5, 0, sampleTime.isNormal⟩, by decide⟩, 2, by decide⟩

theorem sampleSource_records : (mergeGroups (groupFrames sampleFrames)).map (·.admission) =
    sampleRecords := by
  rw [sampleFrames_sealed.consecutive.ascending.1.merge_groupFrames, sampleFrames, List.map_map]
  exact List.map_id _

/-- The selection leaves out the other series and the observation behind the interval, two
observations with one order key stand in the order of their records, and the last one is cut off. -/
theorem segment_query_eq_selection_sample : ∃ prepared segment result,
    buildSegmentV1 (sampleIdentity 1) sampleSealedSource sampleSource = .ok prepared ∧
      parseSegmentV1 prepared.bytes (sampleIdentity 1) = .ok segment ∧
      segment.appends.mapM segment.decodeFrame = .ok sampleRecords ∧
      (sampleQuery.selection sampleRecords).map
        (fun selected => (selected.admission.appendSequence, selected.ordinal)) =
          [(5, 1), (7, 0), (5, 0)] ∧
      segment.queryObservationsV1 sampleQuery = .ok result ∧
      List.Forall₂ SegmentObservationQueryItemV1.Shows result.items
        ((sampleQuery.selection sampleRecords).take 2) ∧
      result.items.length = 2 ∧ result.isTruncated = true := by
  have hbuilt := scanSource_built sampleSource_scanned
  obtain ⟨-, -, -, hform, -⟩ := layOutSource_ok.mp (scanSource_laid sampleSource_scanned)
  have hparsed := parse_complete hform
  obtain ⟨admissions, hadmissions, hqueries⟩ := segment_query_eq_selection hparsed
  have hrecords := hform.admissions
  rw [sampleSource_records, hadmissions, Except.ok.injEq] at hrecords
  subst hrecords
  obtain ⟨result, hresult, -, -, -, hshown, htruncated⟩ := hqueries sampleQuery
  have hselection : (sampleQuery.selection sampleRecords).map
      (fun selected => (selected.admission.appendSequence, selected.ordinal)) =
        [(5, 1), (7, 0), (5, 0)] := by decide +kernel
  have hcount : (sampleQuery.selection sampleRecords).length = 3 := by
    rw [← List.length_map (f := fun selected : SelectedObservation =>
      (selected.admission.appendSequence, selected.ordinal)), hselection]
    rfl
  refine ⟨_, _, result, hbuilt, hparsed, hadmissions, hselection, hresult, hshown, ?_, ?_⟩
  · rw [hshown.length_eq, List.length_take, hcount]
    rfl
  · rw [htruncated, hcount]
    rfl

end Historian
