import Historian.SegmentWalk

namespace Historian

open Wire Checks

/-- All frames with their locations, block by block. -/
def locateGroups : Nat → List (SeriesId × List SourceFrame) → List (FrameLocation × SourceFrame)
  | _, [] => []
  | cursor, (seriesId, frames) :: rest =>
    locateFrames seriesId cursor 0 frames ++ locateGroups (cursor + framesLength frames) rest

theorem groupsFrames_cons (seriesId : SeriesId) (frames : List SourceFrame)
    (rest : List (SeriesId × List SourceFrame)) :
    groupsFrames ((seriesId, frames) :: rest) = frames ++ groupsFrames rest := rfl

theorem framesLength_append (a b : List SourceFrame) :
    framesLength (a ++ b) = framesLength a + framesLength b := by
  simp [framesLength]

theorem framesBytes_append (a b : List SourceFrame) :
    framesBytes (a ++ b) = framesBytes a ++ framesBytes b := List.flatMap_append

theorem observationTotal_append (a b : List SourceFrame) :
    observationTotal (a ++ b) = observationTotal a + observationTotal b := by
  simp [observationTotal]

theorem locateFrames_frames (seriesId : SeriesId) (cursor ordinal : Nat)
    (frames : List SourceFrame) :
    (locateFrames seriesId cursor ordinal frames).map (·.2) = frames := by
  induction frames generalizing cursor ordinal with
  | nil => rfl
  | cons frame rest ih => rw [locateFrames, List.map_cons, ih]

theorem length_locateFrames (seriesId : SeriesId) (cursor ordinal : Nat)
    (frames : List SourceFrame) :
    (locateFrames seriesId cursor ordinal frames).length = frames.length := by
  have h := congrArg List.length (locateFrames_frames seriesId cursor ordinal frames)
  rwa [List.length_map] at h

theorem locateGroups_frames (cursor : Nat) (grouped : List (SeriesId × List SourceFrame)) :
    (locateGroups cursor grouped).map (·.2) = groupsFrames grouped := by
  induction grouped generalizing cursor with
  | nil => rfl
  | cons group rest ih =>
    obtain ⟨seriesId, frames⟩ := group
    rw [locateGroups, List.map_append, locateFrames_frames, ih, groupsFrames_cons]

theorem length_locateObservations (located : FrameLocation × SourceFrame) :
    (locateObservations located).length =
      located.2.admission.envelope.observations.length := by
  simp [locateObservations, SourceFrame.observations]

theorem length_flatMap_locate (located : List (FrameLocation × SourceFrame)) :
    (located.flatMap locateObservations).length = observationTotal (located.map (·.2)) := by
  rw [List.length_flatMap, observationTotal, List.map_map]
  simp only [length_locateObservations]
  rfl

theorem length_sortRecent (entries : List ObservationLocation) :
    (sortRecent entries).length = entries.length := List.length_insertionSort _ _

/-- What the directory of the series says of each block. -/
theorem length_recent (seriesId : SeriesId) (cursor : Nat) (frames : List SourceFrame) :
    (sortRecent ((locateFrames seriesId cursor 0 frames).flatMap locateObservations)).length =
      observationTotal frames := by
  rw [length_sortRecent, length_flatMap_locate, locateFrames_frames]

theorem series_blockDirectories (blockCursor recentCursor : Nat) (seriesId : SeriesId)
    (frames : List SourceFrame) (rest : List (SeriesId × List SourceFrame)) :
    (blockDirectories blockCursor recentCursor ((seriesId, frames) :: rest)).series =
      ⟨seriesId, blockCursor, framesLength frames, frames.length, observationTotal frames,
        recentCursor, observationTotal frames * segmentV1ObservationEntryLen⟩ ::
      (blockDirectories (blockCursor + framesLength frames)
        (recentCursor + observationTotal frames * segmentV1ObservationEntryLen) rest).series := by
  simp only [blockDirectories, length_recent]

/-- Entries that continue each other up to the ends of their regions. -/
def SeriesChain (appendOffset checksumOffset : Nat) :
    Option SegmentSeriesEntryV1 → SeriesCursor → List SegmentSeriesEntryV1 → SeriesCursor → Prop
  | _, cursor, [], last => cursor = last
  | prior, cursor, entry :: rest, last =>
    (∀ before ∈ prior, Identity.lt before.seriesId entry.seriesId = true) ∧
      entry.frameCount ≠ 0 ∧ entry.blockOffset = cursor.blockOffset ∧
      entry.recentOffset = cursor.recentOffset ∧
      entry.recentLength = entry.observationCount * segmentV1ObservationEntryLen ∧
      cursor.blockOffset + entry.blockLength ≤ appendOffset ∧
      cursor.recentOffset + entry.recentLength ≤ checksumOffset ∧
      cursor.frames + entry.frameCount < 2 ^ 64 ∧
      cursor.observations + entry.observationCount < 2 ^ 64 ∧
      SeriesChain appendOffset checksumOffset (some entry)
        ⟨cursor.blockOffset + entry.blockLength, cursor.recentOffset + entry.recentLength,
          cursor.frames + entry.frameCount, cursor.observations + entry.observationCount⟩ rest last

theorem usizeAdd_ok {a b n : Nat} : usizeAdd a b = .ok n ↔ a + b < 2 ^ 64 ∧ a + b = n := by
  unfold usizeAdd
  simp only [then_ok, refuse_ok, pure_ok, Nat.not_le]

theorem length_flatMap_series (entries : List SegmentSeriesEntryV1) :
    (entries.flatMap encodeSeriesEntry).length = entries.length * segmentV1SeriesEntryLen := by
  induction entries with
  | nil => simp
  | cons entry rest ih =>
    rw [List.flatMap_cons, List.length_append, ih, length_encodeSeriesEntry, List.length_cons]
    simp only [segmentV1SeriesEntryLen]
    omega

/-- The loop over the series directory reads the entries that are there. -/
theorem parseSeriesDirectory_ok {bytes : Bytes} {layout : SegmentLayout}
    {checksumOffset count offset : Nat} {prior : Option SegmentSeriesEntryV1}
    {cursor last : SeriesCursor} {entries : List SegmentSeriesEntryV1}
    (hin : offset + count * segmentV1SeriesEntryLen ≤ bytes.length)
    (happend : layout.appendOffset < 2 ^ 64) (hsum : checksumOffset < 2 ^ 64) :
    parseSeriesDirectory bytes layout checksumOffset count offset prior cursor =
        .ok (entries, last) ↔
      entries.length = count ∧
        slice bytes offset (count * segmentV1SeriesEntryLen) = entries.flatMap encodeSeriesEntry ∧
        (∀ entry ∈ entries, entry.Fits) ∧
        SeriesChain layout.appendOffset checksumOffset prior cursor entries last := by
  induction count generalizing offset prior cursor entries with
  | zero =>
    simp only [parseSeriesDirectory, pure_ok, Prod.mk.injEq]
    constructor
    · intro h
      obtain ⟨rfl, rfl⟩ := h
      exact ⟨rfl, by simp [slice], by simp, rfl⟩
    · intro h
      obtain ⟨hlength, -, -, hchain⟩ := h
      obtain rfl := List.eq_nil_of_length_eq_zero hlength
      exact ⟨rfl, hchain⟩
  | succ count ih =>
    have hsplit : (count + 1) * segmentV1SeriesEntryLen =
        segmentV1SeriesEntryLen + count * segmentV1SeriesEntryLen := by
      simp only [segmentV1SeriesEntryLen]
      omega
    have hrest : offset + segmentV1SeriesEntryLen + count * segmentV1SeriesEntryLen ≤
        bytes.length := by omega
    unfold parseSeriesDirectory
    simp only [bind_ok, exists_unit, refuse_ok, pure_ok, not_or, not_not, not_exists, not_and,
      Nat.not_lt, usizeAdd_ok, Prod.exists, Prod.mk.injEq, decodeSeriesEntry_ok]
    constructor
    · intro h
      obtain ⟨entry, ⟨hentry, hfits⟩, ⟨hprior, hframes, hblock, hrecent, hlength⟩, _, ⟨-, rfl⟩, _,
        ⟨-, rfl⟩, ⟨hblocks, hrecents⟩, _, ⟨hcount, rfl⟩, _, ⟨hobservations, rfl⟩, rest, last',
        htail,
        rfl, rfl⟩ := h
      rw [ih hrest] at htail
      obtain ⟨htaillength, hslice, htailfits, hchain⟩ := htail
      refine ⟨by rw [List.length_cons, htaillength], ?_, ?_, hprior, hframes, hblock, hrecent,
        hlength, hblocks, hrecents, hcount, hobservations, hchain⟩
      · rw [hsplit, slice_add, hentry, hslice, List.flatMap_cons]
      · intro other hother
        rcases List.mem_cons.mp hother with rfl | hother
        · exact hfits
        · exact htailfits other hother
    · intro h
      obtain ⟨hlength, hslice, hfits, hchain⟩ := h
      cases entries with
      | nil => cases hlength
      | cons entry rest =>
        obtain ⟨hprior, hframes, hblock, hrecent, hrecentLength, hblocks, hrecents, hcount,
          hobservations, htail⟩ := hchain
        rw [List.length_cons, Nat.add_right_cancel_iff] at hlength
        rw [hsplit, List.flatMap_cons,
          slice_append_iff (length_encodeSeriesEntry entry) (by omega)] at hslice
        obtain ⟨hown, hbehind⟩ := hslice
        refine ⟨entry, ⟨hown, hfits entry List.mem_cons_self⟩,
          ⟨hprior, hframes, hblock, hrecent, hrecentLength⟩, _, ⟨by omega, rfl⟩, _,
          ⟨by omega, rfl⟩, ⟨hblocks, hrecents⟩, _, ⟨hcount, rfl⟩, _, ⟨hobservations, rfl⟩, rest,
          last, ?_, rfl, rfl⟩
        rw [ih hrest]
        exact ⟨hlength, hbehind, fun other hother => hfits other (List.mem_cons_of_mem _ hother),
          htail⟩

/-- Groups of whole frames, in the order of their series and behind the one before them. -/
def GroupsFrom (storeId : StoreId) :
    Option SeriesId → List (SeriesId × List SourceFrame) → Prop
  | _, [] => True
  | prior, (seriesId, frames) :: rest =>
    (∀ before ∈ prior, Identity.lt before seriesId = true) ∧ frames ≠ [] ∧
      (∀ frame ∈ frames, frame.Holds storeId ∧ frame.seriesId = seriesId) ∧ Ascending frames ∧
      GroupsFrom storeId (some seriesId) rest

theorem GroupsFrom.above {storeId : StoreId} {prior : Option SeriesId}
    {grouped : List (SeriesId × List SourceFrame)} (h : GroupsFrom storeId prior grouped) :
    ∀ before ∈ prior, ∀ group ∈ grouped, Identity.lt before group.1 = true := by
  induction grouped generalizing prior with
  | nil => simp
  | cons group rest ih =>
    obtain ⟨hprior, -, -, -, hrest⟩ := h
    intro before hbefore other hother
    rcases List.mem_cons.mp hother with rfl | hother
    · exact hprior before hbefore
    · exact Identity.lt_trans (hprior before hbefore) (ih hrest group.1 rfl other hother)

/-- The groups that the parser accepts are those that the builder forms. -/
theorem groupsFrom_iff {storeId : StoreId} {prior : Option SeriesId}
    {grouped : List (SeriesId × List SourceFrame)} :
    GroupsFrom storeId prior grouped ↔ Grouped grouped ∧
      (∀ frame ∈ groupsFrames grouped, frame.Holds storeId) ∧
      ∀ before ∈ prior, ∀ group ∈ grouped, Identity.lt before group.1 = true := by
  constructor
  · intro h
    refine ⟨?_, ?_, h.above⟩
    · induction grouped generalizing prior with
      | nil => exact ⟨List.Pairwise.nil, by simp, by simp, by simp⟩
      | cons group rest ih =>
        obtain ⟨-, hne, hframes, hascending, hrest⟩ := h
        have htail := ih hrest
        refine ⟨List.pairwise_cons.mpr ⟨hrest.above group.1 rfl, htail.ordered⟩, ?_, ?_, ?_⟩
        · exact List.forall_mem_cons.mpr ⟨hne, htail.nonempty⟩
        · exact List.forall_mem_cons.mpr
            ⟨fun frame hframe => (hframes frame hframe).2, htail.series⟩
        · exact List.forall_mem_cons.mpr ⟨hascending, htail.ascending⟩
    · induction grouped generalizing prior with
      | nil => simp [groupsFrames]
      | cons group rest ih =>
        obtain ⟨-, -, hframes, -, hrest⟩ := h
        rw [groupsFrames_cons]
        exact List.forall_mem_append.mpr ⟨fun frame hframe => (hframes frame hframe).1, ih hrest⟩
  · intro h
    obtain ⟨hgrouped, hholds, habove⟩ := h
    induction grouped generalizing prior with
    | nil => trivial
    | cons group rest ih =>
      rw [groupsFrames_cons, List.forall_mem_append] at hholds
      refine ⟨fun before hbefore => habove before hbefore group List.mem_cons_self,
        hgrouped.nonempty group List.mem_cons_self, ?_,
        hgrouped.ascending group List.mem_cons_self, ih hgrouped.tail hholds.2 ?_⟩
      · intro frame hframe
        exact ⟨hholds.1 frame hframe, hgrouped.series group List.mem_cons_self frame hframe⟩
      · intro before hbefore other hother
        rw [Option.mem_some_iff] at hbefore
        rw [← hbefore]
        exact (List.pairwise_cons.mp hgrouped.ordered).1 other hother

section Blocks

variable {bytes : Bytes} {storeId : StoreId} {appendOffset checksumOffset : Nat}
  {last : SeriesCursor}

/-- The series directory and the blocks together are the groups of the frames. -/
theorem series_blocks_ok {prior : Option SegmentSeriesEntryV1} {cursor : SeriesCursor}
    {entries : List SegmentSeriesEntryV1} {proofs : List FrameLocation}
    {observations : List ObservationLocation} (happend : appendOffset ≤ bytes.length)
    (hblock : cursor.blockOffset ≤ appendOffset) (hrecent : cursor.recentOffset ≤ checksumOffset)
    (hframes : cursor.frames < 2 ^ 64) (hobservations : cursor.observations < 2 ^ 64) :
    SeriesChain appendOffset checksumOffset prior cursor entries last ∧
        walkBlocks bytes storeId entries = .ok (proofs, observations) ↔
      ∃ grouped, GroupsFrom storeId (prior.map (·.seriesId)) grouped ∧
        cursor.blockOffset + framesLength (groupsFrames grouped) ≤ appendOffset ∧
        cursor.recentOffset +
          observationTotal (groupsFrames grouped) * segmentV1ObservationEntryLen ≤ checksumOffset ∧
        cursor.frames + (groupsFrames grouped).length < 2 ^ 64 ∧
        cursor.observations + observationTotal (groupsFrames grouped) < 2 ^ 64 ∧
        slice bytes cursor.blockOffset (framesLength (groupsFrames grouped)) =
          framesBytes (groupsFrames grouped) ∧
        entries = (blockDirectories cursor.blockOffset cursor.recentOffset grouped).series ∧
        last = ⟨cursor.blockOffset + framesLength (groupsFrames grouped),
          cursor.recentOffset +
            observationTotal (groupsFrames grouped) * segmentV1ObservationEntryLen,
          cursor.frames + (groupsFrames grouped).length,
          cursor.observations + observationTotal (groupsFrames grouped)⟩ ∧
        proofs = (locateGroups cursor.blockOffset grouped).map (·.1) ∧
        observations = (locateGroups cursor.blockOffset grouped).flatMap locateObservations := by
  induction entries generalizing prior cursor proofs observations with
  | nil =>
    simp only [SeriesChain, walkBlocks, pure_ok, Prod.mk.injEq]
    constructor
    · intro h
      obtain ⟨rfl, rfl, rfl⟩ := h
      refine ⟨[], trivial, ?_⟩
      simp only [groupsFrames, framesLength, framesBytes, observationTotal, blockDirectories,
        locateGroups, List.flatMap_nil, List.map_nil, List.sum_nil, List.length_nil, Nat.add_zero,
        Nat.zero_mul]
      exact ⟨hblock, hrecent, hframes, hobservations, by simp [slice], trivial, trivial, trivial,
        trivial⟩
    · intro h
      obtain ⟨grouped, -, -, -, -, -, -, hentries, rfl, rfl, rfl⟩ := h
      cases grouped with
      | nil => exact ⟨rfl, rfl, rfl⟩
      | cons group rest => cases hentries
  | cons entry entries ih =>
    simp only [SeriesChain, walkBlocks, bind_ok, exists_unit, refuse_ok, pure_ok, not_or, not_not,
      Prod.exists, Prod.mk.injEq]
    constructor
    · intro h
      obtain ⟨⟨hprior, hcount, hoffset, hrecents, hlength, hblocks, hbound, hword, hword', hchain⟩,
        walk, hwalk, ⟨hend, htotal⟩, proofs', observations', hrest, rfl, rfl⟩ := h
      rw [hoffset, walkFrames_ok (by omega) (by omega)] at hwalk
      obtain ⟨frames, hframesLength, hle, hslice, hholds, hascending, rfl⟩ := hwalk
      obtain ⟨grouped, hgroups, h1, h2, h3, h4, hbytes, rfl, rfl, rfl, rfl⟩ :=
        (ih hblocks hbound hword hword').mp ⟨hchain, hrest⟩
      dsimp only at hend htotal
      obtain ⟨seriesId, blockOffset, blockLength, frameCount, observationCount, recentOffset,
        recentLength⟩ := entry
      dsimp only at hprior hcount hoffset hrecents hlength hblocks hbound hframesLength hle
      dsimp only at hholds hend htotal h1 h2 h3 h4 hbytes hgroups ⊢
      have hblockLength : blockLength = framesLength frames := by omega
      have hobserved : observationCount = observationTotal frames := by
        rw [htotal, length_flatMap_locate, locateFrames_frames]
      subst hlength hobserved hblockLength hframesLength hoffset hrecents
      have hne : frames ≠ [] := by
        intro hnil
        rw [hnil] at hcount
        exact hcount rfl
      have hbefore : ∀ before ∈ prior.map (·.seriesId), Identity.lt before seriesId = true := by
        cases prior with
        | none => simp
        | some before => simpa using hprior
      refine ⟨(seriesId, frames) :: grouped,
        ⟨hbefore, hne, hholds, ascendingFrom_none.mp hascending,
        hgroups⟩, ?_⟩
      rw [groupsFrames_cons, framesLength_append, observationTotal_append, List.length_append,
        framesBytes_append, series_blockDirectories, Nat.add_mul,
        slice_append_iff (length_framesBytes frames) (by omega)]
      simp only [← Nat.add_assoc]
      refine ⟨h1, h2, h3, h4, ⟨hslice, hbytes⟩, trivial, trivial, ?_, ?_⟩
      · rw [locateGroups, List.map_append]
      · rw [locateGroups, List.flatMap_append]
    · intro h
      obtain ⟨grouped, hgroups, h1, h2, h3, h4, hbytes, hentries, hlast, rfl, rfl⟩ := h
      cases grouped with
      | nil => cases hentries
      | cons group grouped =>
        obtain ⟨seriesId, frames⟩ := group
        rw [series_blockDirectories, List.cons.injEq] at hentries
        obtain ⟨rfl, rfl⟩ := hentries
        obtain ⟨hbefore, hne, hholds, hascending, hrest⟩ := hgroups
        rw [groupsFrames_cons, framesLength_append, ← Nat.add_assoc] at h1
        rw [groupsFrames_cons, observationTotal_append, Nat.add_mul, ← Nat.add_assoc] at h2
        rw [groupsFrames_cons, List.length_append, ← Nat.add_assoc] at h3
        rw [groupsFrames_cons, observationTotal_append, ← Nat.add_assoc] at h4
        rw [groupsFrames_cons, framesLength_append, framesBytes_append,
          slice_append_iff (length_framesBytes frames) (by omega)] at hbytes
        obtain ⟨hslice, hbehind⟩ := hbytes
        rw [groupsFrames_cons, framesLength_append, observationTotal_append, List.length_append,
          Nat.add_mul] at hlast
        simp only [← Nat.add_assoc] at hlast
        have hcount : frames.length ≠ 0 := by
          intro hzero
          exact hne (List.eq_nil_of_length_eq_zero hzero)
        have hprior : ∀ before ∈ prior, Identity.lt before.seriesId seriesId = true := by
          intro before hmem
          exact hbefore before.seriesId (Option.mem_map_of_mem _ hmem)
        have hwalk : walkFrames bytes storeId seriesId
            (cursor.blockOffset + framesLength frames) frames.length 0 cursor.blockOffset none =
            .ok ⟨(locateFrames seriesId cursor.blockOffset 0 frames).map (·.1),
              (locateFrames seriesId cursor.blockOffset 0 frames).flatMap locateObservations,
              cursor.blockOffset + framesLength frames⟩ :=
          (walkFrames_ok (by omega) (by omega)).mpr ⟨frames, rfl, Nat.le_refl _, hslice, hholds,
            ascendingFrom_none.mpr hascending, rfl⟩
        have hobserved : observationTotal frames =
            ((locateFrames seriesId cursor.blockOffset 0 frames).flatMap
              locateObservations).length := by
          rw [length_flatMap_locate, locateFrames_frames]
        have hnext : SeriesChain appendOffset checksumOffset
              (some ⟨seriesId, cursor.blockOffset, framesLength frames, frames.length,
                observationTotal frames, cursor.recentOffset,
                observationTotal frames * segmentV1ObservationEntryLen⟩)
              ⟨cursor.blockOffset + framesLength frames,
                cursor.recentOffset + observationTotal frames * segmentV1ObservationEntryLen,
                cursor.frames + frames.length, cursor.observations + observationTotal frames⟩
              _ last ∧ walkBlocks bytes storeId _ = .ok (_, _) :=
          (ih (by dsimp only; omega) (by dsimp only; omega) (by dsimp only; omega)
            (by dsimp only; omega)).mpr ⟨grouped, hrest, h1, h2, h3, h4, hbehind, rfl, hlast, rfl,
              rfl⟩
        refine ⟨⟨hprior, hcount, rfl, rfl, rfl, ?_, ?_, ?_, ?_, hnext.1⟩, _, hwalk,
          ⟨rfl, hobserved⟩, _, _,
          hnext.2, ?_, ?_⟩
        any_goals (dsimp only; omega)
        · rw [locateGroups, List.map_append]
        · rw [locateGroups, List.flatMap_append]

end Blocks

end Historian
