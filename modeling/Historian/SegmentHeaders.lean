import Historian.SegmentEntries

namespace Historian

open Wire Checks

/-- What the counts of a segment and the length of its blocks are bounded by. -/
structure SegmentCounts.Bounded (count : SegmentCounts) (blocksLength : Nat) : Prop where
  frames_pos : 0 < count.frames
  frames_le : count.frames ≤ maxActiveJournalRecords
  series_pos : 0 < count.series
  series_le : count.series ≤ count.frames
  observations_le : count.observations ≤ maxSegmentV1Observations
  blocks_pos : 0 < blocksLength
  blocks_le : blocksLength ≤ maxActiveJournalBytes - journalV1HeaderLen

/-- The regions of a segment one behind the other. -/
def SegmentCounts.layout (count : SegmentCounts) (blocksLength : Nat) : SegmentLayout :=
  let blocksOffset := 192 + count.series * 64
  let appendOffset := blocksOffset + blocksLength
  let recentOffset := appendOffset + count.frames * 48
  ⟨192, count.series * 64, blocksOffset, blocksLength, appendOffset, count.frames * 48,
    recentOffset, count.observations * 96, recentOffset + count.observations * 96 + 4⟩

theorem SegmentLayout.new_ok {count : SegmentCounts} {blocksLength : Nat}
    {layout : SegmentLayout} : SegmentLayout.new count blocksLength = .ok layout ↔
      count.Bounded blocksLength ∧ layout = count.layout blocksLength := by
  unfold SegmentLayout.new
  simp only [then_ok, refuse_ok, pure_ok, not_or, Nat.not_lt]
  constructor
  · intro h
    obtain ⟨⟨h1, h2, h3, -, h5, h6, h7, h8⟩, -, hlayout⟩ := h
    exact ⟨⟨by omega, h2, by omega, h5, h6, by omega, h8⟩, hlayout.symm⟩
  · intro h
    obtain ⟨hbounded, rfl⟩ := h
    have h1 := hbounded.frames_pos
    have h2 := hbounded.frames_le
    have h3 := hbounded.series_pos
    have h5 := hbounded.series_le
    have h6 := hbounded.observations_le
    have h7 := hbounded.blocks_pos
    have h8 := hbounded.blocks_le
    refine ⟨⟨by omega, h2, by omega, Nat.le_trans h5 h2, h5, h6, by omega, h8⟩, ?_, rfl⟩
    simp only [maxSegmentV1Bytes, maxSegmentV1Series, segmentV1HeaderLen, segmentV1SeriesEntryLen,
      segmentV1AppendEntryLen, segmentV1ObservationEntryLen, segmentV1CrcLen]
    omega

namespace SegmentCounts.Bounded

variable {count : SegmentCounts} {blocksLength : Nat} (h : count.Bounded blocksLength)

include h

theorem artifactLength_le : (count.layout blocksLength).artifactLength ≤ maxSegmentV1Bytes := by
  have hlayout := SegmentLayout.new_ok.mpr ⟨h, rfl⟩
  unfold SegmentLayout.new at hlayout
  simp only [then_ok, refuse_ok, pure_ok, Nat.not_lt] at hlayout
  obtain ⟨-, hmax, heq⟩ := hlayout
  rw [← heq]
  exact hmax

theorem artifactLength_lt : (count.layout blocksLength).artifactLength < 2 ^ 64 :=
  Nat.lt_of_le_of_lt h.artifactLength_le (by decide)

theorem counts_lt : count.frames < 2 ^ 32 ∧ count.series < 2 ^ 32 ∧
    count.observations < 2 ^ 32 := by
  have hframes := h.frames_le
  have hseries := h.series_le
  have hobservations := h.observations_le
  have h4096 : maxActiveJournalRecords < 2 ^ 32 := by decide
  have hmax : maxSegmentV1Observations < 2 ^ 32 := by decide
  omega

end SegmentCounts.Bounded

/-- What a sealed record must say for a segment of so many frames. -/
structure SealedGeneration.Sealable (sealed : SealedGeneration) (frames : Nat) : Prop where
  journal : sealed.journalGeneration ≠ 0
  registry : sealed.registryGeneration ≠ 0
  nonempty : sealed.sequenceFloor < sealed.sequenceCutoff
  whole : sealed.endOffset = sealed.artifactLength
  header_lt : journalV1HeaderLen < sealed.endOffset.val
  length_le : sealed.artifactLength.val ≤ maxActiveJournalBytes
  counted : sealed.sequenceCutoff.val - sealed.sequenceFloor.val = frames

def segmentHeaderLayout : List Nat :=
  [8, 2, 2, 4, 16, 8, 8, 8, 8, 8, 8, 4, 4, 4, 4, 8, 8, 8, 8, 8, 8, 8, 8, 8, 24]

theorem segmentHeaderFields_lengths (storeId : StoreId) (sealed : SealedGeneration)
    (count : SegmentCounts) (layout : SegmentLayout) :
    (segmentHeaderFields storeId sealed count layout).map List.length = segmentHeaderLayout := by
  have hid := storeId.length_eq
  simp [segmentHeaderFields, segmentHeaderLayout, segmentV1Magic, hid]

theorem length_segmentHeader (storeId : StoreId) (sealed : SealedGeneration)
    (count : SegmentCounts) (layout : SegmentLayout) :
    (segmentHeaderFields storeId sealed count layout).flatten.length = segmentV1HeaderLen := by
  rw [List.length_flatten, segmentHeaderFields_lengths]
  rfl

theorem readCount_ok {bytes : Bytes} {offset maximum n : Nat} (h : offset + 4 ≤ bytes.length)
    (hmax : maximum < 2 ^ 32) : readCount bytes offset maximum = .ok n ↔
      n ≤ maximum ∧ slice bytes offset 4 = toBE 4 n := by
  unfold readCount
  simp only [then_ok, refuse_ok, pure_ok, Nat.not_lt]
  rw [u32At_val h]
  constructor
  · intro hn
    obtain ⟨hle, hlt, hslice⟩ := hn
    rw [(u32At_val h).mpr ⟨hlt, hslice⟩] at hle
    exact ⟨hle, hslice⟩
  · intro hn
    obtain ⟨hle, hslice⟩ := hn
    have hlt : n < 2 ^ 32 := by omega
    rw [(u32At_val h).mpr ⟨hlt, hslice⟩]
    exact ⟨hle, hlt, hslice⟩

/-- What an accepted header says of the artifact that it stands in. -/
structure SegmentHeader.Describes (header : SegmentHeader) (storeId : StoreId) (bytes : Bytes) :
    Prop where
  sealable : header.sealed.Sealable header.count.frames
  bounded : header.count.Bounded header.layout.blocksLength
  layout_eq : header.layout = header.count.layout header.layout.blocksLength
  length_eq : bytes.length = header.layout.artifactLength
  fields : slice bytes 0 segmentV1HeaderLen =
    (segmentHeaderFields storeId header.sealed header.count header.layout).flatten
  checksum : crc32c (slice bytes 0 (bytes.length - segmentV1CrcLen)) =
    u32At bytes (bytes.length - segmentV1CrcLen)
  trailer : header.artifactChecksum = u32At bytes (bytes.length - segmentV1CrcLen)

theorem parseSegmentHeader_ok {bytes : Bytes} {storeId : StoreId} {header : SegmentHeader} :
    parseSegmentHeader bytes storeId = .ok header ↔ header.Describes storeId bytes := by
  have hread (h : 196 ≤ bytes.length) :
      slice bytes 0 segmentV1HeaderLen =
        (segmentHeaderFields storeId header.sealed header.count header.layout).flatten ↔ _ :=
    (cut_eq_iff_slice (segmentHeaderFields_lengths storeId header.sealed header.count
      header.layout)).symm
  simp only [cut, segmentHeaderLayout, Nat.reduceAdd, segmentHeaderFields, List.cons.injEq,
    and_true] at hread
  have h4096 : maxActiveJournalRecords < 2 ^ 32 := by decide
  have hgroups : maxSegmentV1Series < 2 ^ 32 := by decide
  have hmax : maxSegmentV1Observations < 2 ^ 32 := by decide
  unfold parseSegmentHeader
  simp only [bind_ok, exists_unit, refuse_ok, pure_ok, mapError_ok, not_or, not_not, Nat.not_lt,
    Nat.not_le, Fin.not_le, Identity.fromBytes_ok, SegmentLayout.new_ok]
  constructor
  · intro h
    obtain ⟨hbound, hlen, ⟨hmagic, hversion, hheader, hflags, hzeros⟩, id, hid, rfl, frames,
      hframes, series, hseries, observations, hobservations, ⟨hgen, hreg, hcut, hend, hnonempty,
      hlength, -, -, -, hcount⟩, layout, ⟨hbounded, hlayout⟩, ⟨l1, l2, l3, l4, l5, l6, l7, l8, l9⟩,
      htotal, hcrc, rfl⟩ := h
    have hlen' : 196 ≤ bytes.length := hlen
    rw [readCount_ok (by omega) h4096] at hframes
    rw [readCount_ok (by omega) hgroups] at hseries
    rw [readCount_ok (by omega) hmax] at hobservations
    rw [u64At_val (by omega)] at l1 l2 l3 l5 l6 l7 l8 l9
    have hblocks := (u64At_val (by omega)).mp l4
    rw [l4] at hbounded hlayout
    refine ⟨⟨hgen, hreg, hcut, hend, hnonempty, hlength, hcount⟩, hbounded, hlayout, htotal, ?_,
      hcrc,
      rfl⟩
    exact (hread hlen').mpr ⟨hmagic, (u16At_eq (by omega) (by decide)).mp hversion,
      (u16At_eq (by omega) (by decide)).mp hheader, ((u32At_val (by omega)).mp hflags).2, hid,
      slice_of_u64At (by omega), slice_of_u64At (by omega), slice_of_u64At (by omega),
      slice_of_u64At (by omega), slice_of_u64At (by omega), slice_of_u64At (by omega),
      slice_of_u32At (by omega), hframes.2, hseries.2, hobservations.2, l1.2, l2.2, l3.2,
      hblocks.2, l5.2, l6.2, l7.2, l8.2, l9.2, hzeros⟩
  · intro h
    obtain ⟨sealable, hbounded, hlayout, htotal, hfields, hcrc, htrailer⟩ := h
    obtain ⟨sealed, count, layout, checksum⟩ := header
    simp only at sealable hbounded hlayout htotal hfields hcrc htrailer hread
    have hword := hbounded.artifactLength_lt
    have hbound := hbounded.artifactLength_le
    rw [← hlayout, ← htotal] at hbound
    rw [← hlayout] at hword
    have hsums : layout.artifactLength = 192 + count.series * 64 + layout.blocksLength +
        count.frames * 48 + count.observations * 96 + 4 := by
      rw [hlayout]
      rfl
    have hlen : 196 ≤ bytes.length := by omega
    obtain ⟨hmagic, hversion, hheader, hflags, hid, s1, s2, s3, s4, s5, s6, s7, hframes, hseries,
      hobservations, l1, l2, l3, l4, l5, l6, l7, l8, l9, hzeros⟩ := (hread hlen).mp hfields
    have hregions : layout.seriesOffset ≤ layout.artifactLength ∧
        layout.seriesLength ≤ layout.artifactLength ∧
        layout.blocksOffset ≤ layout.artifactLength ∧
        layout.blocksLength ≤ layout.artifactLength ∧
        layout.appendOffset ≤ layout.artifactLength ∧
        layout.appendLength ≤ layout.artifactLength ∧
        layout.recentOffset ≤ layout.artifactLength ∧
        layout.recentLength ≤ layout.artifactLength := by
      rw [hsums, hlayout]
      simp only [SegmentCounts.layout]
      omega
    obtain ⟨r1, r2, r3, r4, r5, r6, r7, r8⟩ := hregions
    have hblocks : (u64At bytes 120).val = layout.blocksLength :=
      (u64At_val (by omega)).mpr ⟨by omega, l4⟩
    rw [hblocks, u64At_of_slice s1, u64At_of_slice s2, u64At_of_slice s3, u64At_of_slice s4,
      u64At_of_slice s5, u64At_of_slice s6, u32At_of_slice s7]
    refine ⟨hbound, hlen, ⟨hmagic, u16At_of_slice (by decide) hversion,
      u16At_of_slice (by decide) hheader, (u32At_val (by omega)).mpr ⟨by decide, hflags⟩, hzeros⟩,
      storeId, hid, rfl, count.frames,
      (readCount_ok (by omega) h4096).mpr ⟨hbounded.frames_le, hframes⟩, count.series,
      (readCount_ok (by omega) hgroups).mpr
        ⟨Nat.le_trans hbounded.series_le hbounded.frames_le, hseries⟩, count.observations,
      (readCount_ok (by omega) hmax).mpr ⟨hbounded.observations_le, hobservations⟩,
      ⟨sealable.journal, sealable.registry, sealable.nonempty, sealable.whole, sealable.header_lt,
        sealable.length_le, Nat.ne_of_gt hbounded.frames_pos, Nat.ne_of_gt hbounded.series_pos,
        hbounded.series_le, sealable.counted⟩, layout, ⟨hbounded, hlayout⟩,
      ⟨(u64At_val (by omega)).mpr ⟨by omega, l1⟩, (u64At_val (by omega)).mpr ⟨by omega, l2⟩,
        (u64At_val (by omega)).mpr ⟨by omega, l3⟩, rfl,
        (u64At_val (by omega)).mpr ⟨by omega, l5⟩, (u64At_val (by omega)).mpr ⟨by omega, l6⟩,
        (u64At_val (by omega)).mpr ⟨by omega, l7⟩, (u64At_val (by omega)).mpr ⟨by omega, l8⟩,
        (u64At_val (by omega)).mpr ⟨hword, l9⟩⟩, htotal, hcrc, ?_⟩
    rw [htrailer]

end Historian
