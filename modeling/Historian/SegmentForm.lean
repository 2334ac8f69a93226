import Historian.SegmentProofs

namespace Historian

open Wire Checks Sorting

def groupsCount (grouped : List (SeriesId × List SourceFrame)) : SegmentCounts :=
  ⟨(groupsFrames grouped).length, grouped.length, observationTotal (groupsFrames grouped)⟩

def groupsLayout (grouped : List (SeriesId × List SourceFrame)) : SegmentLayout :=
  (groupsCount grouped).layout (framesLength (groupsFrames grouped))

def groupsBody (storeId : StoreId) (sealed : SealedGeneration)
    (grouped : List (SeriesId × List SourceFrame)) : Bytes :=
  segmentBody storeId sealed (groupsCount grouped) (groupsLayout grouped) grouped

/-- The one segment of the groups of a sealed generation. -/
def segmentOf (storeId : StoreId) (sealed : SealedGeneration)
    (grouped : List (SeriesId × List SourceFrame)) : SegmentV1 :=
  let body := groupsBody storeId sealed grouped
  let directories := segmentDirectories (groupsLayout grouped) grouped
  ⟨withChecksum body,
    inspection storeId sealed (groupsCount grouped) (groupsLayout grouped) (crc32c body),
    directories.series, directories.appends, directories.observations⟩

/-- What the groups of a segment satisfy. -/
structure SegmentForm (storeId : StoreId) (sealed : SealedGeneration)
    (grouped : List (SeriesId × List SourceFrame)) : Prop where
  groups : Grouped grouped
  source : SealedSource storeId sealed (mergeGroups grouped)
  bounded : (groupsCount grouped).Bounded (framesLength (groupsFrames grouped))

section Merged

variable (grouped : List (SeriesId × List SourceFrame))

theorem mergeGroups_perm : (mergeGroups grouped).Perm (groupsFrames grouped) :=
  List.perm_insertionSort _ _

theorem framesLength_perm {a b : List SourceFrame} (h : a.Perm b) :
    framesLength a = framesLength b := (h.map _).sum_eq

theorem observationTotal_perm {a b : List SourceFrame} (h : a.Perm b) :
    observationTotal a = observationTotal b := (h.map _).sum_eq

theorem appends_blockDirectories (blockCursor recentCursor : Nat) :
    (blockDirectories blockCursor recentCursor grouped).appends =
      (locateGroups blockCursor grouped).map (·.1) := by
  induction grouped generalizing blockCursor recentCursor with
  | nil => rfl
  | cons group rest ih =>
    obtain ⟨seriesId, frames⟩ := group
    simp only [blockDirectories, locateGroups, List.map_append, ih]

theorem length_series (blockCursor recentCursor : Nat) :
    (blockDirectories blockCursor recentCursor grouped).series.length = grouped.length := by
  induction grouped generalizing blockCursor recentCursor with
  | nil => rfl
  | cons group rest ih => rw [series_blockDirectories, List.length_cons, ih, List.length_cons]

end Merged

/-- Frames with their locations in the order of their sequences. -/
def sortedLocated (cursor : Nat) (grouped : List (SeriesId × List SourceFrame)) :
    List (FrameLocation × SourceFrame) :=
  (locateGroups cursor grouped).insertionSort fun left right =>
    left.1.appendSequence ≤ right.1.appendSequence

theorem mem_sortedLocated {cursor : Nat} {grouped : List (SeriesId × List SourceFrame)}
    {located : FrameLocation × SourceFrame} :
    located ∈ sortedLocated cursor grouped ↔ located ∈ locateGroups cursor grouped :=
  List.mem_insertionSort _

theorem sortedLocated_locations (cursor : Nat) (grouped : List (SeriesId × List SourceFrame)) :
    (sortedLocated cursor grouped).map (·.1) =
      sortAppends ((locateGroups cursor grouped).map (·.1)) :=
  List.map_insertionSort _ _ _ _ fun _ _ _ _ => Iff.rfl

theorem locateFrames_sequence {seriesId : SeriesId} {cursor ordinal : Nat}
    {frames : List SourceFrame} : ∀ located ∈ locateFrames seriesId cursor ordinal frames,
      located.1.appendSequence = located.2.appendSequence ∧ located.1.seriesId = seriesId := by
  induction frames generalizing cursor ordinal with
  | nil => simp [locateFrames]
  | cons frame rest ih =>
    rw [locateFrames, List.forall_mem_cons]
    exact ⟨⟨rfl, rfl⟩, ih⟩

theorem locateGroups_sequence {cursor : Nat} {grouped : List (SeriesId × List SourceFrame)} :
    ∀ located ∈ locateGroups cursor grouped,
      located.1.appendSequence = located.2.appendSequence := by
  induction grouped generalizing cursor with
  | nil => simp [locateGroups]
  | cons group rest ih =>
    rw [locateGroups, List.forall_mem_append]
    exact ⟨fun located hlocated => (locateFrames_sequence located hlocated).1, ih⟩

theorem sortedLocated_frames (cursor : Nat) (grouped : List (SeriesId × List SourceFrame)) :
    (sortedLocated cursor grouped).map (·.2) = mergeGroups grouped := by
  rw [mergeGroups, ← locateGroups_frames cursor grouped]
  apply List.map_insertionSort
  intro left hleft right hright
  rw [locateGroups_sequence left hleft, locateGroups_sequence right hright]
  rfl

/-- The recent directory is sorted as a whole when each of its runs is. -/
theorem sorted_observations (blockCursor recentCursor : Nat)
    {grouped : List (SeriesId × List SourceFrame)} (h : Grouped grouped) :
    ((locateGroups blockCursor grouped).flatMap locateObservations).insertionSort
        (fun left right => (directoryOrder left right).isLE) =
      (blockDirectories blockCursor recentCursor grouped).observations := by
  have hseries (seriesId : SeriesId) (cursor : Nat) (frames : List SourceFrame) :
      ∀ entry ∈ (locateFrames seriesId cursor 0 frames).flatMap locateObservations,
        entry.seriesId = seriesId := by
    intro entry hentry
    obtain ⟨located, hlocated, hmem⟩ := List.mem_flatMap.mp hentry
    rw [(mem_locateObservations hmem).1, (locateFrames_sequence located hlocated).2]
  have hgroups (cursor : Nat) (rest : List (SeriesId × List SourceFrame)) :
      ∀ entry ∈ (locateGroups cursor rest).flatMap locateObservations,
        ∃ group ∈ rest, entry.seriesId = group.1 := by
    induction rest generalizing cursor with
    | nil => simp [locateGroups]
    | cons group rest ih =>
      rw [locateGroups, List.flatMap_append, List.forall_mem_append]
      constructor
      · intro entry hentry
        exact ⟨group, List.mem_cons_self, hseries group.1 cursor group.2 entry hentry⟩
      · intro entry hentry
        obtain ⟨other, hother, heq⟩ := ih _ entry hentry
        exact ⟨other, List.mem_cons_of_mem _ hother, heq⟩
  induction grouped generalizing blockCursor recentCursor with
  | nil => rfl
  | cons group rest ih =>
    obtain ⟨seriesId, frames⟩ := group
    have hown := hseries seriesId blockCursor frames
    have hbefore : ∀ left ∈ (locateFrames seriesId blockCursor 0 frames).flatMap
        locateObservations, ∀ right ∈ (locateGroups (blockCursor + framesLength frames)
          rest).flatMap locateObservations, (directoryOrder left right).isLE = true := by
      intro left hleft right hright
      obtain ⟨other, hother, heq⟩ := hgroups _ _ right hright
      apply directoryOrder_before
      rw [hown left hleft, heq]
      exact (List.pairwise_cons.mp h.ordered).1 other hother
    have hsame : ((locateFrames seriesId blockCursor 0 frames).flatMap
        locateObservations).insertionSort (fun left right => (directoryOrder left right).isLE) =
          sortRecent ((locateFrames seriesId blockCursor 0 frames).flatMap locateObservations) := by
      apply insertionSort_congr
      intro left hleft right hright
      rw [directoryOrder_same ((hown left hleft).trans (hown right hright).symm)]
    rw [locateGroups, List.flatMap_append, insertionSort_append hbefore, hsame]
    simp only [blockDirectories]
    rw [ih _ _ h.tail]

end Historian
