import Historian.SegmentParse
import Historian.Sorting

namespace Historian

open Sorting SortedMap

instance : Std.TransCmp Timestamp.cmp :=
  @transCmp_then _ _ (transCmp_key Timestamp.unixSeconds) _ (transCmp_key Timestamp.nanosecond)

instance : Std.TransCmp RawObservationOrderKey.cmp :=
  @transCmp_then _ _ (transCmp_key RawObservationOrderKey.effective) _
    (@transCmp_then _ _ (transCmp_key RawObservationOrderKey.receive) _
      (transCmp_key fun key : RawObservationOrderKey => key.observationId.bytes))

instance : Std.TransCmp recentOrder :=
  @transCmp_then _ _ (transCmp_descending SegmentObservationEntryV1.rawOrderKey) _
    (@transCmp_then _ _ (transCmp_descending SegmentObservationEntryV1.appendSequence) _
      (transCmp_key SegmentObservationEntryV1.observationOrdinal))

instance : Std.TransCmp directoryOrder :=
  @transCmp_then _ _ (transCmp_key fun entry : ObservationLocation => entry.seriesId.bytes) _ _

theorem compare_bytes {a b : List UInt8} : compare a b = .lt ↔ a < b := by
  induction a generalizing b with
  | nil => cases b <;> simp
  | cons x xs ih =>
    cases b with
    | nil => simp
    | cons y ys =>
      rw [List.compare_cons_cons, Ordering.then_eq_lt, List.cons_lt_cons_iff, ih,
        Std.compare_eq_lt, Std.compare_eq_iff_eq]

/-- Within a series the recent directory is in the recent order. -/
theorem directoryOrder_same {left right : ObservationLocation}
    (h : left.seriesId = right.seriesId) :
    directoryOrder left right = recentOrder left right := by
  have hself : compare right.seriesId.bytes right.seriesId.bytes = .eq := by simp
  unfold directoryOrder
  rw [h, hself]
  rfl

theorem directoryOrder_before {left right : ObservationLocation}
    (h : Identity.lt left.seriesId right.seriesId = true) :
    (directoryOrder left right).isLE = true := by
  have hbytes := compare_bytes.mpr (Identity.lt_iff.mp h)
  unfold directoryOrder
  rw [hbytes]
  rfl

/-- Frames in the order of their sequences. -/
def Ascending (frames : List SourceFrame) : Prop :=
  frames.Pairwise fun first second => first.appendSequence < second.appendSequence

/-- Groups of frames as the builder forms them. -/
structure Grouped (grouped : List (SeriesId × List SourceFrame)) : Prop where
  ordered : Ordered Identity.lt grouped
  nonempty : ∀ group ∈ grouped, group.2 ≠ []
  series : ∀ group ∈ grouped, ∀ frame ∈ group.2, frame.seriesId = group.1
  ascending : ∀ group ∈ grouped, Ascending group.2

def sequenceOrder (first second : SourceFrame) : Prop :=
  first.appendSequence ≤ second.appendSequence

instance : DecidableRel sequenceOrder :=
  fun first second => inferInstanceAs (Decidable (first.appendSequence ≤ second.appendSequence))

instance : IsTrans SourceFrame sequenceOrder := ⟨fun _ _ _ h h' => Fin.le_trans h h'⟩

instance : Std.Total sequenceOrder := ⟨fun _ _ => Fin.le_total _ _⟩

def groupsFrames (grouped : List (SeriesId × List SourceFrame)) : List SourceFrame :=
  grouped.flatMap (·.2)

/-- The frames of all groups in the order of their sequences. -/
def mergeGroups (grouped : List (SeriesId × List SourceFrame)) : List SourceFrame :=
  (groupsFrames grouped).insertionSort sequenceOrder

def ownFrames (seriesId : SeriesId) (frames : List SourceFrame) : List SourceFrame :=
  frames.filter fun frame => frame.seriesId = seriesId

theorem Ascending.sorted {frames : List SourceFrame} (h : Ascending frames) :
    frames.Pairwise sequenceOrder := by
  refine List.Pairwise.imp ?_ h
  intro first second hlt
  exact Fin.le_of_lt hlt

/-- A sequence stands for one frame only. -/
theorem Ascending.eq_of_sequence {frames : List SourceFrame} (h : Ascending frames)
    {a b : SourceFrame} (ha : a ∈ frames) (hb : b ∈ frames)
    (heq : a.appendSequence = b.appendSequence) : a = b := by
  induction frames with
  | nil => cases ha
  | cons frame rest ih =>
    obtain ⟨hframe, hrest⟩ := List.pairwise_cons.mp h
    rcases List.mem_cons.mp ha with hfirst | hlater
    · rcases List.mem_cons.mp hb with hfirst' | hlater'
      · rw [hfirst, hfirst']
      · have hlt := hframe b hlater'
        rw [← heq, hfirst] at hlt
        exact absurd hlt (Fin.lt_irrefl _)
    · rcases List.mem_cons.mp hb with hfirst' | hlater'
      · have hlt := hframe a hlater
        rw [heq, hfirst'] at hlt
        exact absurd hlt (Fin.lt_irrefl _)
      · exact ih hrest hlater hlater'

/-- Frames in their order are the only arrangement of them in their order. -/
theorem Ascending.eq_of_perm {frames other : List SourceFrame} (h : Ascending frames)
    (hother : other.Pairwise sequenceOrder) (hperm : other.Perm frames) : other = frames := by
  refine hperm.eq_of_pairwise ?_ hother h.sorted
  intro a b ha hb hle hge
  exact h.eq_of_sequence (hperm.mem_iff.mp ha) hb (Fin.le_antisymm hle hge)

theorem get?_pushFrame (grouped : List (SeriesId × List SourceFrame)) (frame : SourceFrame)
    (seriesId : SeriesId) : get? seriesId (pushFrame grouped frame) =
      if frame.seriesId = seriesId then some ((get? seriesId grouped).getD [] ++ [frame])
      else get? seriesId grouped := by
  by_cases heq : frame.seriesId = seriesId
  · subst heq
    rw [if_pos rfl]
    cases hget : get? frame.seriesId grouped with
    | none => simp [pushFrame, hget, get?_insert]
    | some frames => simp [pushFrame, hget, get?_modify]
  · have hne : seriesId ≠ frame.seriesId := Ne.symm heq
    rw [if_neg heq]
    cases hget : get? frame.seriesId grouped with
    | none => simp [pushFrame, hget, get?_insert, hne]
    | some frames => simp [pushFrame, hget, get?_modify, hne]

theorem groupFrames_snoc (frames : List SourceFrame) (frame : SourceFrame) :
    groupFrames (frames ++ [frame]) = pushFrame (groupFrames frames) frame := by
  simp [groupFrames]

/-- A group holds the frames of its series in the order of the source. -/
theorem get?_groupFrames (frames : List SourceFrame) (seriesId : SeriesId) :
    get? seriesId (groupFrames frames) =
      if ownFrames seriesId frames = [] then none else some (ownFrames seriesId frames) := by
  induction frames using List.reverseRecOn with
  | nil => rfl
  | append_singleton frames frame ih =>
    rw [groupFrames_snoc, get?_pushFrame, ih]
    by_cases heq : frame.seriesId = seriesId
    · by_cases hnil : ownFrames seriesId frames = []
      · simp_all [ownFrames]
      · simp [ownFrames, heq]
        simp only [ownFrames] at hnil
        rw [if_neg (by simpa using hnil)]
        rfl
    · simp [ownFrames, heq]

theorem ordered_groupFrames (frames : List SourceFrame) :
    Ordered Identity.lt (groupFrames frames) := by
  induction frames using List.reverseRecOn with
  | nil => exact List.Pairwise.nil
  | append_singleton frames frame ih =>
    rw [groupFrames_snoc]
    unfold pushFrame
    split
    next => exact ih.modify _ _
    next hnone =>
      exact @Ordered.insert _ _ _ Identity.lt Identity.lt_trans Identity.lt_of_not_lt _ _ _ ih hnone

theorem perm_groupFrames (frames : List SourceFrame) :
    (groupsFrames (groupFrames frames)).Perm frames := by
  induction frames using List.reverseRecOn with
  | nil => exact List.Perm.nil
  | append_singleton frames frame ih =>
    rw [groupFrames_snoc]
    have happend := ih.append_right [frame]
    unfold pushFrame
    split
    next own hsome =>
      have hadded : own ++ [frame] = own ++ [frame] := rfl
      exact (perm_modify hsome hadded).trans happend
    next hnone => exact (perm_insert hnone).trans happend

theorem mem_groupFrames {frames : List SourceFrame} {group : SeriesId × List SourceFrame}
    (h : group ∈ groupFrames frames) :
    ownFrames group.1 frames = group.2 ∧ group.2 ≠ [] := by
  have hget := (ordered_groupFrames frames).get?_of_mem Identity.lt_irrefl h
  rw [get?_groupFrames] at hget
  split at hget
  next => cases hget
  next hne =>
    rw [Option.some.injEq] at hget
    exact ⟨hget, hget ▸ hne⟩

theorem Ascending.grouped {frames : List SourceFrame} (h : Ascending frames) :
    Grouped (groupFrames frames) where
  ordered := ordered_groupFrames frames
  nonempty group hgroup := (mem_groupFrames hgroup).2
  series group hgroup frame hframe := by
    rw [← (mem_groupFrames hgroup).1] at hframe
    simpa using (List.mem_filter.mp hframe).2
  ascending group hgroup := by
    rw [← (mem_groupFrames hgroup).1]
    exact h.filter _

/-- What was grouped is merged back. -/
theorem Ascending.merge_groupFrames {frames : List SourceFrame} (h : Ascending frames) :
    mergeGroups (groupFrames frames) = frames := by
  apply h.eq_of_perm (List.pairwise_insertionSort _ _)
  exact (List.perm_insertionSort _ _).trans (perm_groupFrames frames)

namespace Grouped

variable {grouped : List (SeriesId × List SourceFrame)}

theorem tail {group : SeriesId × List SourceFrame} (h : Grouped (group :: grouped)) :
    Grouped grouped where
  ordered := (List.pairwise_cons.mp h.ordered).2
  nonempty other hother := h.nonempty other (List.mem_cons_of_mem _ hother)
  series other hother := h.series other (List.mem_cons_of_mem _ hother)
  ascending other hother := h.ascending other (List.mem_cons_of_mem _ hother)

/-- The frames of a series are those of its group. -/
theorem ownFrames_eq (h : Grouped grouped) (seriesId : SeriesId) :
    ownFrames seriesId (groupsFrames grouped) = (get? seriesId grouped).getD [] := by
  induction grouped with
  | nil => rfl
  | cons group rest ih =>
    obtain ⟨key, frames⟩ := group
    have hseries := h.series (key, frames) List.mem_cons_self
    have hrest := ih h.tail
    simp only [ownFrames] at hrest
    rw [ownFrames, groupsFrames, List.flatMap_cons, List.filter_append, ← groupsFrames, hrest]
    simp only [get?]
    by_cases heq : seriesId = key
    · subst heq
      have hall : frames.filter (fun frame => frame.seriesId = seriesId) = frames := by
        rw [List.filter_eq_self]
        intro frame hframe
        simpa using hseries frame hframe
      have hnone : get? seriesId rest = none := by
        apply get?_eq_none
        intro entry hentry heq
        have hlt := (List.pairwise_cons.mp h.ordered).1 entry hentry
        rw [heq, Identity.lt_irrefl] at hlt
        cases hlt
      rw [hall, hnone, if_pos rfl]
      simp
    · have hnil : frames.filter (fun frame => frame.seriesId = seriesId) = [] := by
        rw [List.filter_eq_nil_iff]
        intro frame hframe
        have hkey := hseries frame hframe
        dsimp only at hkey
        simp only [decide_eq_true_eq, hkey]
        exact Ne.symm heq
      rw [hnil, if_neg heq, List.nil_append]

theorem ownFrames_merge (h : Grouped grouped) (seriesId : SeriesId) :
    ownFrames seriesId (mergeGroups grouped) = (get? seriesId grouped).getD [] := by
  have hfilter : ownFrames seriesId (mergeGroups grouped) =
      (ownFrames seriesId (groupsFrames grouped)).insertionSort sequenceOrder :=
    filter_insertionSort _ _
  rw [hfilter, h.ownFrames_eq]
  cases hget : get? seriesId grouped with
  | none => rfl
  | some frames =>
    have hascending : Ascending frames := h.ascending (seriesId, frames) (mem_of_get? hget)
    exact hascending.sorted.insertionSort_eq

/-- What was merged is grouped again. -/
theorem groupFrames_merge (h : Grouped grouped) : groupFrames (mergeGroups grouped) = grouped := by
  refine @Ordered.ext _ _ _ Identity.lt Identity.lt_trans Identity.lt_irrefl _ _
    (ordered_groupFrames _) h.ordered ?_
  intro seriesId
  rw [get?_groupFrames, h.ownFrames_merge]
  cases hget : get? seriesId grouped with
  | none => rfl
  | some frames =>
    have hne : frames ≠ [] := h.nonempty (seriesId, frames) (mem_of_get? hget)
    rw [Option.getD_some, if_neg hne]

end Grouped

end Historian
