import Historian.SegmentRoundTrip
import Historian.SegmentQuery

namespace Historian

open Wire Checks Sorting

/-- An observation with the record that it stands in and its place there. -/
structure SelectedObservation where
  admission : DecodedAdmissionV1
  ordinal : Nat
  observation : Observation
  deriving DecidableEq

def selectFrom (admission : DecodedAdmissionV1) : List SelectedObservation :=
  admission.envelope.observations.zipIdx.map fun pair => ⟨admission, pair.2, pair.1⟩

/-- All observations of a series over all records. -/
def seriesObservations (seriesId : SeriesId) (admissions : List DecodedAdmissionV1) :
    List SelectedObservation :=
  (admissions.filter fun admission => admission.declaration.seriesId = seriesId).flatMap selectFrom

/-- The latest order key first, then the latest sequence, then the first ordinal. -/
def selectionOrder (left right : SelectedObservation) : Ordering :=
  (right.observation.rawOrderKey.cmp left.observation.rawOrderKey).then
    ((compare right.admission.appendSequence left.admission.appendSequence).then
      (compare left.ordinal right.ordinal))

/-- What a query selects from the records of a segment, before its limit. -/
def SegmentObservationQueryV1.selection (query : SegmentObservationQueryV1)
    (admissions : List DecodedAdmissionV1) : List SelectedObservation :=
  ((seriesObservations query.seriesId admissions).filter fun selected =>
    query.admits selected.observation.times.effective).insertionSort fun left right =>
      (selectionOrder left right).isLE

/-- An item that shows a selected observation with its lineage. -/
structure SegmentObservationQueryItemV1.Shows (item : SegmentObservationQueryItemV1)
    (selected : SelectedObservation) : Prop where
  admission : item.admission = selected.admission
  index : item.observationIndex = selected.ordinal
  observation : item.observation = some selected.observation
  lineage : ∃ lineage, item.lineage = some lineage ∧
    selected.admission.observations[selected.ordinal]? = some lineage ∧
    lineage.canonicalObservationId = selected.observation.observationId
  rawOrderKey : item.entry.rawOrderKey = selected.observation.rawOrderKey
  sequence : item.entry.appendSequence = selected.admission.appendSequence
  ordinal : item.entry.observationOrdinal = selected.ordinal

/-- What a validated lineage says of the observation at its place. -/
theorem validateLineages_get {lifecycle : CaptureLifecycle} {prior : Option UInt8}
    {lineages : List DecodedObservationLineageV1} {observations : List Observation}
    (h : validateLineages lifecycle prior lineages observations = .ok ()) {i : Nat}
    {lineage : DecodedObservationLineageV1} {observation : Observation}
    (hlineage : lineages[i]? = some lineage) (hobservation : observations[i]? = some observation) :
    lineage.canonicalObservationId = observation.observationId ∧
      lineage.raw.snapshotId = lifecycle.snapshot.evidenceId ∧
      lineage.normalized.rawRecordId = lineage.raw.evidenceId ∧
      lineage.normalized.observationEvidenceId = lineage.observation.evidenceId := by
  induction lineages generalizing prior observations i with
  | nil => simp at hlineage
  | cons first rest ih =>
    cases observations with
    | nil => simp at hobservation
    | cons canonical others =>
      unfold validateLineages at h
      simp only [then_ok, refuse_ok, not_or, not_not] at h
      obtain ⟨⟨hid, -, hsnapshot, hraw, hevidence, -⟩, hrest⟩ := h
      cases i with
      | zero =>
        rw [List.getElem?_cons_zero, Option.some.injEq] at hlineage hobservation
        rw [← hlineage, ← hobservation]
        exact ⟨hid, hsnapshot, hraw, hevidence⟩
      | succ i =>
        rw [List.getElem?_cons_succ] at hlineage hobservation
        exact ih hrest hlineage hobservation

/-- Every observation of an accepted record has its lineage at its own place. -/
theorem SourceFrame.Holds.lineage {storeId : StoreId} {frame : SourceFrame}
    (h : frame.Holds storeId) {i : Nat} {observation : Observation}
    (hobservation : frame.admission.envelope.observations[i]? = some observation) :
    ∃ lineage, frame.admission.observations[i]? = some lineage ∧
      lineage.canonicalObservationId = observation.observationId ∧
      lineage.raw.snapshotId = frame.admission.lifecycle.snapshot.evidenceId ∧
      lineage.normalized.rawRecordId = lineage.raw.evidenceId ∧
      lineage.normalized.observationEvidenceId = lineage.observation.evidenceId := by
  obtain ⟨-, -, -, -, -, -, hvalid⟩ := decodeAdmissionFrameV1_ok.mp h.decodes
  unfold validateDecoded at hvalid
  simp only [bind_ok, exists_unit, refuse_ok, not_or, not_not] at hvalid
  obtain ⟨-, previous, -, -, ⟨-, hkind⟩, hrest⟩ := hvalid
  split at hrest
  next => cases hrest
  next =>
    simp only [then_ok, refuse_ok, not_or, not_not] at hrest
    obtain ⟨-, -, hevidence, -⟩ := hrest
    have hlt := (List.getElem?_eq_some_iff.mp hobservation).1
    unfold validateDecodedEvidence at hevidence
    split at hevidence
    next lineages gaps hcase =>
      simp only [then_ok, refuse_ok, not_or, not_not] at hevidence
      obtain ⟨⟨hlength, -⟩, hlineages, -⟩ := hevidence
      have hown : frame.admission.observations = lineages := by
        simp only [DecodedAdmissionV1.observations, hcase]
      rw [← hlength] at hlt
      rw [hown]
      exact ⟨lineages[i], List.getElem?_eq_getElem hlt,
        validateLineages_get hlineages (List.getElem?_eq_getElem hlt) hobservation⟩
    next hcase =>
      -- a record without observations has none to show
      simp only [DecodedAdmissionV1.evidenceKind, hcase] at hkind
      unfold CollectionEnvelope.evidenceKind at hkind
      unfold CollectionEnvelope.observations at hlt
      split at hkind
      next => cases hkind
      next interval hnone =>
        rw [hnone] at hlt
        exact absurd hlt (Nat.not_lt_zero i)

/-- The entries of a located frame with the observations that they stand for. -/
def locatePairs (located : FrameLocation × SourceFrame) :
    List (ObservationLocation × SelectedObservation) :=
  located.2.admission.envelope.observations.zipIdx.map fun pair =>
    (⟨located.1.seriesId, pair.1.rawOrderKey, located.1.appendSequence, pair.2,
        located.1.frameOrdinal, located.1.frameOffset, located.1.frameLength⟩,
      ⟨located.2.admission, pair.2, pair.1⟩)

theorem locatePairs_entries (located : FrameLocation × SourceFrame) :
    (locatePairs located).map (·.1) = locateObservations located := by
  simp only [locatePairs, locateObservations, SourceFrame.observations, List.map_map]
  rfl

theorem locatePairs_selected (located : FrameLocation × SourceFrame) :
    (locatePairs located).map (·.2) = selectFrom located.2.admission := by
  simp only [locatePairs, selectFrom, List.map_map]
  rfl

theorem mem_locatePairs {located : FrameLocation × SourceFrame}
    {pair : ObservationLocation × SelectedObservation} (h : pair ∈ locatePairs located) :
    pair.2.admission = located.2.admission ∧
      located.2.admission.envelope.observations[pair.2.ordinal]? = some pair.2.observation ∧
      pair.1 = ⟨located.1.seriesId, pair.2.observation.rawOrderKey, located.1.appendSequence,
        pair.2.ordinal, located.1.frameOrdinal, located.1.frameOffset, located.1.frameLength⟩ := by
  obtain ⟨indexed, hindexed, rfl⟩ := List.mem_map.mp h
  rw [List.mem_zipIdx_iff_getElem?] at hindexed
  exact ⟨rfl, hindexed, rfl⟩

section Query

variable {storeId : StoreId} {sealed : SealedGeneration}
  {grouped : List (SeriesId × List SourceFrame)} (h : SegmentForm storeId sealed grouped)

/-- The locations of the frames of a segment. -/
abbrev segmentLocated (grouped : List (SeriesId × List SourceFrame)) :
    List (FrameLocation × SourceFrame) :=
  locateGroups (groupsLayout grouped).blocksOffset grouped

include h in
theorem SegmentForm.holds_located {located : FrameLocation × SourceFrame}
    (hlocated : located ∈ segmentLocated grouped) : located.2.Holds storeId := by
  apply holds_iff.mp h.source.holds
  rw [← locateGroups_frames (groupsLayout grouped).blocksOffset grouped]
  exact List.mem_map_of_mem hlocated

include h in
/-- A sequence stands for one record only. -/
theorem SegmentForm.frame_unique {located other : FrameLocation × SourceFrame}
    (hlocated : located ∈ segmentLocated grouped) (hother : other ∈ segmentLocated grouped)
    (heq : located.1.appendSequence = other.1.appendSequence) : located.2 = other.2 := by
  have hascending := h.source.consecutive.ascending.1
  have hmem : ∀ entry ∈ segmentLocated grouped, entry.2 ∈ mergeGroups grouped := by
    intro entry hentry
    rw [← sortedLocated_frames (groupsLayout grouped).blocksOffset grouped]
    exact List.mem_map_of_mem (mem_sortedLocated.mpr hentry)
  apply hascending.eq_of_sequence (hmem located hlocated) (hmem other hother)
  rw [← locateGroups_sequence located hlocated, ← locateGroups_sequence other hother, heq]

theorem segmentOf_appends : (segmentOf storeId sealed grouped).appends =
    (sortedLocated (groupsLayout grouped).blocksOffset grouped).map (·.1) := by
  rw [sortedLocated_locations, ← appends_blockDirectories]
  rfl

include h in
/-- The append directory finds every location by its sequence. -/
theorem SegmentForm.find_append {located : FrameLocation × SourceFrame}
    (hlocated : located ∈ segmentLocated grouped) :
    BinarySearch.find (fun append : SegmentAppendEntryV1 =>
      compare append.appendSequence located.1.appendSequence)
        (segmentOf storeId sealed grouped).appends = some located.1 := by
  have hascending := h.source.consecutive.ascending.1
  have hsequences : ((segmentOf storeId sealed grouped).appends.map (·.appendSequence)) =
      (mergeGroups grouped).map (·.appendSequence) := by
    rw [segmentOf_appends, ← sortedLocated_frames (groupsLayout grouped).blocksOffset grouped,
      List.map_map, List.map_map]
    apply List.map_congr_left
    intro entry hentry
    exact locateGroups_sequence entry (mem_sortedLocated.mp hentry)
  have hordered : (segmentOf storeId sealed grouped).appends.Pairwise fun first second =>
      compare first.appendSequence second.appendSequence = .lt := by
    have hmapped : ((mergeGroups grouped).map (·.appendSequence)).Pairwise fun first second =>
        compare first second = .lt := by
      rw [List.pairwise_map]
      refine List.Pairwise.imp ?_ hascending
      intro first second hlt
      exact compare_lt_iff_lt.mpr hlt
    rw [← hsequences, List.pairwise_map] at hmapped
    exact hmapped
  refine BinarySearch.find_mem (BinarySearch.searchable_key _ _ hordered) ?_ (by simp)
  rw [segmentOf_appends]
  exact List.mem_map_of_mem (mem_sortedLocated.mpr hlocated)

/-- What the walk has decoded so far. -/
def CacheSound (grouped : List (SeriesId × List SourceFrame)) (cache : DecodedFrames) : Prop :=
  ∀ entry ∈ cache, ∃ located ∈ segmentLocated grouped,
    entry = (located.1.appendSequence, located.2.admission)

include h in
theorem SegmentForm.openFrame {located : FrameLocation × SourceFrame}
    (hlocated : located ∈ segmentLocated grouped) {cache : DecodedFrames}
    (hcache : CacheSound grouped cache) : ∃ cache',
      (segmentOf storeId sealed grouped).openFrame cache located.1 =
        .ok (located.2.admission, cache') ∧ CacheSound grouped cache' := by
  unfold SegmentV1.openFrame
  cases hfind : cache.find? (·.1 = located.1.appendSequence) with
  | some entry =>
    obtain ⟨other, hother, rfl⟩ := hcache entry (List.mem_of_find?_eq_some hfind)
    have hsequence := List.find?_some hfind
    simp only [decide_eq_true_eq] at hsequence
    have hframe := h.frame_unique hother hlocated hsequence
    refine ⟨cache, ?_, hcache⟩
    rw [hframe]
    rfl
  | none =>
    have hin := segmentOf_locatedIn storeId sealed grouped located hlocated
    refine ⟨cache ++ [(located.1.appendSequence, located.2.admission)], ?_, ?_⟩
    · simp only [checkedSlice_eq hin.inside, hin.frame, (h.holds_located hlocated).decodes]
      rfl
    · intro entry hentry
      rcases List.mem_append.mp hentry with hentry | hentry
      · exact hcache entry hentry
      · exact ⟨located, hlocated, List.mem_singleton.mp hentry⟩

include h in
/-- No entry of the recent directory is inconsistent. -/
theorem SegmentForm.openEntry {query : SegmentObservationQueryV1}
    {located : FrameLocation × SourceFrame} (hlocated : located ∈ segmentLocated grouped)
    (hframe : located.2.seriesId = query.seriesId)
    {pair : ObservationLocation × SelectedObservation} (hpair : pair ∈ locatePairs located)
    {cache : DecodedFrames} (hcache : CacheSound grouped cache) : ∃ item cache',
      (segmentOf storeId sealed grouped).openEntry query cache pair.1 = .ok (item, cache') ∧
        CacheSound grouped cache' ∧ item.Shows pair.2 := by
  obtain ⟨entry, selected⟩ := pair
  obtain ⟨hadmission, hobservation, hentry⟩ := mem_locatePairs hpair
  dsimp only at hadmission hobservation hentry
  have hholds := h.holds_located hlocated
  obtain ⟨lineage, hlineage, hid, hsnapshot, hraw, hevidence⟩ := hholds.lineage hobservation
  obtain ⟨cache', hopen, hcache'⟩ := h.openFrame hlocated hcache
  have hsequence : located.1.appendSequence = located.2.admission.appendSequence :=
    locateGroups_sequence located hlocated
  have hbound : selected.ordinal < 256 := by
    have hlt := (List.getElem?_eq_some_iff.mp hobservation).1
    have hmax := located.2.admission.envelope.lengths_le.1
    simp only [maxObservations] at hmax
    omega
  refine ⟨⟨entry, located.2.admission, selected.ordinal⟩, cache', ?_, hcache', ?_⟩
  · subst hentry
    unfold SegmentV1.openEntry
    dsimp only
    rw [h.find_append hlocated]
    dsimp only
    simp only [bind_ok, exists_unit, refuse_ok, not_or, not_not, Nat.not_le, Prod.exists]
    refine ⟨by simp, _, _, hopen, ⟨hsequence.symm, hholds.store,
      hholds.declared, hframe, hholds.series.1.trans hframe, hholds.series.2.trans hframe⟩,
      hbound, ?_⟩
    rw [hobservation, hlineage]
    simp only [then_ok, refuse_ok, pure_ok, not_or, not_not]
    exact ⟨⟨trivial, rfl, hid, hsnapshot, hraw, hevidence⟩, trivial⟩
  · refine ⟨hadmission.symm, rfl, hobservation, ⟨lineage, hlineage, hadmission ▸ hlineage, hid⟩,
      ?_, ?_, ?_⟩
    · rw [hentry]
    · rw [hentry, hadmission]
      exact hsequence
    · rw [hentry]

include h in
/-- The walk shows the admitted observations one by one, as many as the limit leaves room for. -/
theorem SegmentForm.walkEntries {query : SegmentObservationQueryV1}
    {pairs : List (ObservationLocation × SelectedObservation)}
    (hpairs : ∀ pair ∈ pairs, ∃ located ∈ segmentLocated grouped,
      located.1.seriesId = query.seriesId ∧ located.2.seriesId = query.seriesId ∧
        pair ∈ locatePairs located)
    {items : List SegmentObservationQueryItemV1} {cache : DecodedFrames}
    (hcache : CacheSound grouped cache) (hitems : items.length ≤ query.limit) :
    ∃ found, (segmentOf storeId sealed grouped).walkEntries query (pairs.map (·.1)) items cache =
        .ok (items ++ found, decide (query.limit < items.length +
          ((pairs.map (·.2)).filter fun selected =>
            query.admits selected.observation.times.effective).length)) ∧
      List.Forall₂ SegmentObservationQueryItemV1.Shows found
        (((pairs.map (·.2)).filter fun selected =>
          query.admits selected.observation.times.effective).take
            (query.limit - items.length)) := by
  induction pairs generalizing items cache with
  | nil =>
    refine ⟨[], ?_, by simp⟩
    have hlimit : ¬query.limit < items.length := by omega
    simp [SegmentV1.walkEntries, hlimit]
  | cons pair rest ih =>
    obtain ⟨⟨located, hlocated, hseries, hframe, hpair⟩, hrest⟩ := List.forall_mem_cons.mp hpairs
    have hentry := (mem_locatePairs hpair).2.2
    have hkey : pair.1.rawOrderKey.effective = pair.2.observation.times.effective := by
      rw [hentry]
      rfl
    have hown : pair.1.seriesId = query.seriesId := by
      rw [hentry]
      exact hseries
    rw [List.map_cons, List.map_cons, List.filter_cons]
    unfold SegmentV1.walkEntries
    simp only [then_ok, refuse_ok, not_not, hown, true_and, hkey]
    by_cases hadmits : query.admits pair.2.observation.times.effective = true
    · simp only [hadmits, if_true, Bool.true_eq_false, if_false, List.length_cons]
      by_cases hfull : items.length = query.limit
      · refine ⟨[], ?_, ?_⟩
        · rw [if_pos hfull, hfull, pure_ok, List.append_nil]
          simp
        · rw [hfull, Nat.sub_self, List.take_zero]
          exact .nil
      · obtain ⟨item, cache', hopen, hcache', hshows⟩ :=
          h.openEntry hlocated hframe hpair hcache
        have hroom : (items ++ [item]).length ≤ query.limit := by
          rw [List.length_append, List.length_singleton]
          omega
        obtain ⟨found, hwalk, hfound⟩ := ih hrest hcache' hroom
        rw [List.length_append, List.length_singleton] at hwalk hfound
        refine ⟨item :: found, ?_, ?_⟩
        · rw [if_neg hfull, bind_ok]
          refine ⟨_, hopen, ?_⟩
          dsimp only
          rw [hwalk, List.append_assoc, Nat.add_assoc, Nat.add_comm 1]
          rfl
        · have htake : query.limit - items.length = query.limit - (items.length + 1) + 1 := by
            omega
          rw [htake, List.take_succ_cons]
          exact .cons hshows hfound
    · rw [Bool.not_eq_true] at hadmits
      simp only [hadmits, if_true, Bool.false_eq_true, if_false]
      exact ih hrest hcache hitems

end Query

end Historian
