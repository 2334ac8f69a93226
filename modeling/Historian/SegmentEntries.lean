import Historian.SegmentParse

namespace Wire

/-- Bytes that start with the fields of a layout are cut into them. -/
theorem cut_eq_iff_slice {bytes : Bytes} {fields : List Bytes} {lens : List Nat}
    (hfields : fields.map List.length = lens) :
    cut bytes 0 lens = fields ↔ slice bytes 0 lens.sum = fields.flatten := by
  constructor
  · intro hcut
    rw [← flatten_cut, hcut]
  · intro hslice
    have hsplit : bytes = fields.flatten ++ bytes.drop lens.sum := by
      rw [← hslice]
      simp [slice]
    rw [hsplit, ← hfields]
    exact cut_flatten_append fields _

theorem cut_eq_iff {bytes : Bytes} {fields : List Bytes} {lens : List Nat}
    (hfields : fields.map List.length = lens) (hlen : bytes.length = lens.sum) :
    cut bytes 0 lens = fields ↔ bytes = fields.flatten := by
  rw [cut_eq_iff_slice hfields, slice_all hlen]

theorem u64At_val {bytes : Bytes} {start n : Nat} (h : start + 8 ≤ bytes.length) :
    (u64At bytes start).val = n ↔ n < 2 ^ 64 ∧ slice bytes start 8 = toBE 8 n := by
  constructor
  · intro hval
    refine ⟨hval ▸ (u64At bytes start).isLt, ?_⟩
    rw [slice_of_u64At h, hval]
  · intro hslice
    obtain ⟨hlt, hslice⟩ := hslice
    have hfin : slice bytes start 8 = toBE 8 (⟨n, hlt⟩ : Fin (2 ^ 64)) := hslice
    rw [u64At_of_slice hfin]

theorem u32At_val {bytes : Bytes} {start n : Nat} (h : start + 4 ≤ bytes.length) :
    (u32At bytes start).val = n ↔ n < 2 ^ 32 ∧ slice bytes start 4 = toBE 4 n := by
  constructor
  · intro hval
    refine ⟨hval ▸ (u32At bytes start).isLt, ?_⟩
    rw [slice_of_u32At h, hval]
  · intro hslice
    obtain ⟨hlt, hslice⟩ := hslice
    have hfin : slice bytes start 4 = toBE 4 (⟨n, hlt⟩ : Fin (2 ^ 32)) := hslice
    rw [u32At_of_slice hfin]

theorem u64At_eq {bytes : Bytes} {start : Nat} {value : Fin (2 ^ 64)}
    (h : start + 8 ≤ bytes.length) :
    u64At bytes start = value ↔ slice bytes start 8 = toBE 8 value := by
  constructor
  · intro hvalue
    rw [slice_of_u64At h, hvalue]
  · exact u64At_of_slice

theorem u32At_eq {bytes : Bytes} {start : Nat} {value : Fin (2 ^ 32)}
    (h : start + 4 ≤ bytes.length) :
    u32At bytes start = value ↔ slice bytes start 4 = toBE 4 value := by
  constructor
  · intro hvalue
    rw [slice_of_u32At h, hvalue]
  · exact u32At_of_slice

theorem u16At_eq {bytes : Bytes} {start value : Nat} (h : start + 2 ≤ bytes.length)
    (hvalue : value < 2 ^ 16) : u16At bytes start = value ↔ slice bytes start 2 = toBE 2 value := by
  constructor
  · exact slice_eq_toBE h
  · exact u16At_of_slice hvalue

end Wire

namespace Historian

open Wire Checks

/-- The numbers of an entry fit the widths of their fields. -/
def SegmentSeriesEntryV1.Fits (entry : SegmentSeriesEntryV1) : Prop :=
  entry.blockOffset < 2 ^ 64 ∧ entry.blockLength < 2 ^ 64 ∧ entry.frameCount < 2 ^ 32 ∧
    entry.observationCount < 2 ^ 32 ∧ entry.recentOffset < 2 ^ 64 ∧ entry.recentLength < 2 ^ 64

def SegmentAppendEntryV1.Fits (entry : SegmentAppendEntryV1) : Prop :=
  entry.frameOffset < 2 ^ 64 ∧ entry.frameLength < 2 ^ 64 ∧ entry.frameOrdinal < 2 ^ 32

def SegmentObservationEntryV1.Fits (entry : SegmentObservationEntryV1) : Prop :=
  entry.observationOrdinal < 2 ^ 32 ∧ entry.frameOrdinal < 2 ^ 32 ∧ entry.frameOffset < 2 ^ 64 ∧
    entry.frameLength < 2 ^ 64

def seriesEntryLayout : List Nat := [16, 8, 8, 4, 4, 8, 8, 8]
def appendEntryLayout : List Nat := [8, 16, 8, 8, 4, 4]
def observationEntryLayout : List Nat := [16, 8, 4, 8, 4, 16, 8, 4, 4, 8, 8, 8]

theorem seriesEntryFields_lengths (entry : SegmentSeriesEntryV1) :
    (seriesEntryFields entry).map List.length = seriesEntryLayout := by
  have hid := entry.seriesId.length_eq
  simp [seriesEntryFields, seriesEntryLayout, hid]

theorem appendEntryFields_lengths (entry : SegmentAppendEntryV1) :
    (appendEntryFields entry).map List.length = appendEntryLayout := by
  have hid := entry.seriesId.length_eq
  simp [appendEntryFields, appendEntryLayout, hid]

theorem observationEntryFields_lengths (entry : SegmentObservationEntryV1) :
    (observationEntryFields entry).map List.length = observationEntryLayout := by
  have hid := entry.seriesId.length_eq
  have hobservation := entry.rawOrderKey.observationId.length_eq
  simp [observationEntryFields, observationEntryLayout, hid, hobservation]

theorem length_encodeSeriesEntry (entry : SegmentSeriesEntryV1) :
    (encodeSeriesEntry entry).length = segmentV1SeriesEntryLen := by
  rw [encodeSeriesEntry, List.length_flatten, seriesEntryFields_lengths]
  rfl

theorem length_encodeAppendEntry (entry : SegmentAppendEntryV1) :
    (encodeAppendEntry entry).length = segmentV1AppendEntryLen := by
  rw [encodeAppendEntry, List.length_flatten, appendEntryFields_lengths]
  rfl

theorem length_encodeObservationEntry (entry : SegmentObservationEntryV1) :
    (encodeObservationEntry entry).length = segmentV1ObservationEntryLen := by
  rw [encodeObservationEntry, List.length_flatten, observationEntryFields_lengths]
  rfl

theorem readSeriesId_ok {bytes : Bytes} {offset : Nat} {seriesId : SeriesId} :
    readSeriesId bytes offset = .ok seriesId ↔ slice bytes offset 16 = seriesId.bytes := by
  unfold readSeriesId
  rw [mapError_ok, Identity.fromBytes_ok]

/-- The one spelling of a series entry. -/
theorem decodeSeriesEntry_ok {bytes : Bytes} {entry : SegmentSeriesEntryV1} :
    decodeSeriesEntry bytes = .ok entry ↔ bytes = encodeSeriesEntry entry ∧ entry.Fits := by
  by_cases hlen : bytes.length = 64
  · have hcut := cut_eq_iff (seriesEntryFields_lengths entry) hlen
    obtain ⟨seriesId, blockOffset, blockLength, frameCount, observationCount, recentOffset,
      recentLength⟩ := entry
    rw [encodeSeriesEntry, ← hcut]
    unfold decodeSeriesEntry
    simp only [bind_ok, exists_unit, refuse_ok, pure_ok, readSeriesId_ok, not_or, not_not,
      SegmentSeriesEntryV1.mk.injEq]
    simp (disch := omega) only [u64At_val, u32At_val]
    simp only [cut, seriesEntryLayout, Nat.reduceAdd, seriesEntryFields, List.cons.injEq,
      and_true, SegmentSeriesEntryV1.Fits, segmentV1SeriesEntryLen, hlen, true_and]
    constructor
    · intro h
      obtain ⟨hzeros, id, hid, rfl, h1, h2, h3, h4, h5, h6⟩ := h
      exact ⟨⟨hid, h1.2, h2.2, h3.2, h4.2, h5.2, h6.2, hzeros⟩, h1.1, h2.1, h3.1, h4.1, h5.1, h6.1⟩
    · intro h
      obtain ⟨⟨hid, h1, h2, h3, h4, h5, h6, hzeros⟩, f1, f2, f3, f4, f5, f6⟩ := h
      exact ⟨hzeros, seriesId, hid, rfl, ⟨f1, h1⟩, ⟨f2, h2⟩, ⟨f3, h3⟩, ⟨f4, h4⟩, ⟨f5, h5⟩, f6, h6⟩
  · constructor
    · intro h
      unfold decodeSeriesEntry at h
      simp only [then_ok, refuse_ok, not_or, not_not] at h
      exact absurd h.1.1 hlen
    · intro h
      exact absurd (h.1 ▸ length_encodeSeriesEntry entry) hlen

theorem decodeAppendEntry_ok {bytes : Bytes} {entry : SegmentAppendEntryV1} :
    decodeAppendEntry bytes = .ok entry ↔ bytes = encodeAppendEntry entry ∧ entry.Fits := by
  by_cases hlen : bytes.length = 48
  · have hcut := cut_eq_iff (appendEntryFields_lengths entry) hlen
    obtain ⟨appendSequence, seriesId, frameOffset, frameLength, frameOrdinal⟩ := entry
    rw [encodeAppendEntry, ← hcut]
    unfold decodeAppendEntry
    simp only [bind_ok, exists_unit, refuse_ok, pure_ok, readSeriesId_ok, not_or, not_not,
      SegmentAppendEntryV1.mk.injEq]
    simp (disch := omega) only [u64At_val, u32At_val, u64At_eq]
    simp only [cut, appendEntryLayout, Nat.reduceAdd, appendEntryFields, List.cons.injEq,
      and_true, SegmentAppendEntryV1.Fits, segmentV1AppendEntryLen, hlen, true_and]
    constructor
    · intro h
      obtain ⟨hzeros, id, hid, h0, rfl, h1, h2, h3⟩ := h
      exact ⟨⟨h0, hid, h1.2, h2.2, h3.2, hzeros⟩, h1.1, h2.1, h3.1⟩
    · intro h
      obtain ⟨⟨h0, hid, h1, h2, h3, hzeros⟩, f1, f2, f3⟩ := h
      exact ⟨hzeros, seriesId, hid, h0, rfl, ⟨f1, h1⟩, ⟨f2, h2⟩, f3, h3⟩
  · constructor
    · intro h
      unfold decodeAppendEntry at h
      simp only [then_ok, refuse_ok, not_or, not_not] at h
      exact absurd h.1.1 hlen
    · intro h
      exact absurd (h.1 ▸ length_encodeAppendEntry entry) hlen

theorem ofBitVec_eq {bits : U64} {seconds : Int64} :
    Int64.ofBitVec (BitVec.ofFin bits) = seconds ↔ bits = secondBits seconds := by
  constructor
  · intro h
    rw [← h]
    rfl
  · intro h
    rw [h]
    rfl

theorem readTimestamp_ok {bytes : Bytes} {offset : Nat} {timestamp : Timestamp}
    (h : offset + 12 ≤ bytes.length) : readTimestamp bytes offset = .ok timestamp ↔
      slice bytes offset 8 = toBE 8 (secondBits timestamp.unixSeconds) ∧
        slice bytes (offset + 8) 4 = toBE 4 timestamp.nanosecond := by
  unfold readTimestamp
  rw [mapError_ok, Timestamp.new_ok, ofBitVec_eq, u64At_eq (by omega), u32At_eq (by omega)]

/-- An entry of the recent directory says where its observation is, and nothing else. -/
theorem decodeObservationEntry_ok {bytes : Bytes} {expected : ObservationLocation}
    {entry : SegmentObservationEntryV1} : decodeObservationEntry bytes expected = .ok entry ↔
      entry = expected ∧ bytes = encodeObservationEntry expected ∧ expected.Fits := by
  by_cases hlen : bytes.length = 96
  · have hcut := cut_eq_iff (observationEntryFields_lengths expected) hlen
    obtain ⟨seriesId, ⟨effective, receive, observationId⟩, appendSequence, observationOrdinal,
      frameOrdinal, frameOffset, frameLength⟩ := expected
    rw [encodeObservationEntry, ← hcut]
    unfold decodeObservationEntry
    simp only [bind_ok, exists_unit, refuse_ok, pure_ok, readSeriesId_ok, mapError_ok,
      Identity.fromBytes_ok, not_or, not_not]
    simp (disch := omega) only [readTimestamp_ok, u64At_val, u32At_val, u64At_eq]
    simp only [cut, observationEntryLayout, Nat.reduceAdd, observationEntryFields,
      List.cons.injEq, and_true, SegmentObservationEntryV1.Fits, segmentV1ObservationEntryLen,
      hlen, true_and]
    constructor
    · intro h
      obtain ⟨hzeros, id, hid, time, htime, received, hreceived, observed, hobserved,
        ⟨rfl, rfl, rfl,
        rfl, h0, h1, h2, h3, h4⟩, rfl⟩ := h
      refine ⟨?_, ⟨hid, htime.1, htime.2, hreceived.1, hreceived.2, hobserved, h0, h1.2, h2.2,
        h3.2, h4.2, hzeros⟩, h1.1, h2.1, h3.1, h4.1⟩
      rw [(u64At_eq (by omega)).mpr h0, (u32At_val (by omega)).mpr h1,
        (u32At_val (by omega)).mpr h2, (u64At_val (by omega)).mpr h3,
        (u64At_val (by omega)).mpr h4]
    · intro h
      obtain ⟨rfl, ⟨hid, he, hn, hr, hm, ho, h0, h1, h2, h3, h4, hzeros⟩, f1, f2, f3, f4⟩ := h
      refine ⟨hzeros, seriesId, hid, effective, ⟨he, hn⟩, receive, ⟨hr, hm⟩, observationId, ho,
        ⟨rfl, rfl, rfl, rfl, h0, ⟨f1, h1⟩, ⟨f2, h2⟩, ⟨f3, h3⟩, f4, h4⟩, ?_⟩
      rw [(u64At_eq (by omega)).mpr h0, (u32At_val (by omega)).mpr ⟨f1, h1⟩,
        (u32At_val (by omega)).mpr ⟨f2, h2⟩, (u64At_val (by omega)).mpr ⟨f3, h3⟩,
        (u64At_val (by omega)).mpr ⟨f4, h4⟩]
  · constructor
    · intro h
      unfold decodeObservationEntry at h
      simp only [then_ok, refuse_ok, not_or, not_not] at h
      exact absurd h.1.1 hlen
    · intro h
      exact absurd (h.2.1 ▸ length_encodeObservationEntry expected) hlen

end Historian
