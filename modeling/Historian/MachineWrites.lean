import Historian.MachineGroups

namespace Historian.MachineSegment

open Wire Checks Machine MachineFrame

/-- The artifact while it is written: each region has its written part and what is still zero. -/
def buffer (header series : Bytes) (seriesLeft : Nat) (blocks : Bytes) (blocksLeft : Nat)
    (appends recents : Bytes) (recentsLeft : Nat) : Bytes :=
  header ++ (series ++ (zeros seriesLeft ++ (blocks ++ (zeros blocksLeft ++ (appends ++
    (recents ++ (zeros recentsLeft ++ zeros 4)))))))

/-- Bytes are written over the first of the zeros behind a part. -/
theorem writeZeros {before behind data : Bytes} {left start stop : Nat}
    (hstart : before.length = start) (hstop : start + data.length = stop) :
    (writeRange (before ++ (zeros (data.length + left) ++ behind)) start stop data :
      Run SegmentV1Error Bytes) = pure (before ++ (data ++ (zeros left ++ behind))) := by
  have hzeros : zeros (data.length + left) = zeros data.length ++ zeros left :=
    List.replicate_add _ _ _
  rw [hzeros, List.append_assoc]
  exact writeRange_middle hstart (by rw [length_zeros]; exact hstop) (length_zeros _).symm

section Buffer

variable {header series blocks appends recents data : Bytes}
  {seriesLeft blocksLeft recentsLeft start stop : Nat}

theorem write_series (hstart : header.length + series.length = start)
    (hstop : start + data.length = stop) :
    (writeRange (buffer header series (data.length + seriesLeft) blocks blocksLeft appends recents
        recentsLeft) start stop data : Run SegmentV1Error Bytes) =
      pure (buffer header (series ++ data) seriesLeft blocks blocksLeft appends recents
        recentsLeft) := by
  have hbefore : (header ++ series).length = start := by rw [List.length_append, hstart]
  have hwrite := @writeZeros _ (blocks ++ (zeros blocksLeft ++ (appends ++ (recents ++
    (zeros recentsLeft ++ zeros 4))))) data seriesLeft start stop hbefore hstop
  simpa only [buffer, List.append_assoc] using hwrite

theorem write_block (hstart : header.length + series.length + seriesLeft + blocks.length = start)
    (hstop : start + data.length = stop) :
    (writeRange (buffer header series seriesLeft blocks (data.length + blocksLeft) appends recents
        recentsLeft) start stop data : Run SegmentV1Error Bytes) =
      pure (buffer header series seriesLeft (blocks ++ data) blocksLeft appends recents
        recentsLeft) := by
  have hbefore : (header ++ (series ++ (zeros seriesLeft ++ blocks))).length = start := by
    simp only [List.length_append, length_zeros]
    omega
  have hwrite := @writeZeros _ (appends ++ (recents ++ (zeros recentsLeft ++ zeros 4))) data
    blocksLeft start stop hbefore hstop
  simpa only [buffer, List.append_assoc] using hwrite

theorem write_recent (hstart : header.length + series.length + seriesLeft + blocks.length +
      blocksLeft + appends.length + recents.length = start)
    (hstop : start + data.length = stop) :
    (writeRange (buffer header series seriesLeft blocks blocksLeft appends recents
        (data.length + recentsLeft)) start stop data : Run SegmentV1Error Bytes) =
      pure (buffer header series seriesLeft blocks blocksLeft appends (recents ++ data)
        recentsLeft) := by
  have hbefore : (header ++ (series ++ (zeros seriesLeft ++ (blocks ++ (zeros blocksLeft ++
      (appends ++ recents)))))).length = start := by
    simp only [List.length_append, length_zeros]
    omega
  have hwrite := @writeZeros _ (zeros 4) data recentsLeft start stop hbefore hstop
  simpa only [buffer, List.append_assoc] using hwrite

end Buffer

theorem copyFrames_eq {source : Bytes} {placed : List PlacedFrame} {seriesId : SeriesId}
    {indices : List Nat} {frames : List SourceFrame}
    (h : List.Forall₂ (Held source placed) indices frames) (hsource : source.length < wordSize)
    {header series blocks appends recents : Bytes} {seriesLeft blocksLeft recentsLeft : Nat}
    {ordinal blockCursor : Nat} {located : List FrameLocation} {recent : List ObservationLocation}
    (hcursor : header.length + series.length + seriesLeft + blocks.length = blockCursor)
    (hordinal : ordinal + frames.length < 2 ^ 32)
    (hword : blockCursor + framesLength frames < wordSize) :
    copyFrames source placed seriesId indices ordinal
      ⟨buffer header series seriesLeft blocks (framesLength frames + blocksLeft) appends recents
        recentsLeft, blockCursor, located, recent⟩ =
      pure ⟨buffer header series seriesLeft (blocks ++ framesBytes frames) blocksLeft appends
          recents recentsLeft, blockCursor + framesLength frames,
        located ++ (locateFrames seriesId blockCursor ordinal frames).map (·.1),
        recent ++ (locateFrames seriesId blockCursor ordinal frames).flatMap
          locateObservations⟩ := by
  induction h generalizing blocks ordinal blockCursor located recent with
  | nil =>
    simp [copyFrames, framesLength, framesBytes, locateFrames]
  | @cons sourceIndex frame indices frames hheld hrest ih =>
    obtain ⟨offset, hfound, hinside, hslice⟩ := hheld.found
    rw [framesLength_cons] at hword ⊢
    rw [List.length_cons] at hordinal
    unfold copyFrames
    rw [index_eq hfound, pure_bind]
    dsimp only [placedFrame]
    rw [add_eq (by omega), pure_bind, range_slice (by omega) (by omega), Nat.add_sub_cancel_left,
      pure_bind, hslice, add_eq (by omega), pure_bind, Nat.add_assoc, write_block hcursor rfl,
      pure_bind]
    have hgo : (refuseIf (2 ^ 32 ≤ ordinal) SegmentV1Error.bounds) = pure () := if_neg (by omega)
    rw [hgo, pure_bind]
    have hnext : header.length + series.length + seriesLeft + (blocks ++ frame.bytes).length =
        blockCursor + frame.bytes.length := by
      rw [List.length_append]
      omega
    rw [ih hnext (by omega) (by omega), framesBytes_cons, locateFrames]
    simp only [List.append_assoc, List.map_cons, List.flatMap_cons, Nat.add_assoc,
      List.singleton_append]
    rfl

theorem writeRecent_eq {entries : List ObservationLocation}
    {header series blocks appends recents : Bytes} {seriesLeft blocksLeft recentsLeft : Nat}
    {recentCursor : Nat}
    (hcursor : header.length + series.length + seriesLeft + blocks.length + blocksLeft +
      appends.length + recents.length = recentCursor)
    (hword : recentCursor + entries.length * segmentV1ObservationEntryLen < wordSize) :
    writeRecent entries (buffer header series seriesLeft blocks blocksLeft appends recents
        (entries.length * segmentV1ObservationEntryLen + recentsLeft)) recentCursor =
      pure (buffer header series seriesLeft blocks blocksLeft appends
          (recents ++ entries.flatMap encodeObservationEntry) recentsLeft,
        recentCursor + entries.length * segmentV1ObservationEntryLen) := by
  induction entries generalizing recents recentCursor with
  | nil => simp [writeRecent]
  | cons entry rest ih =>
    have hlen : (encodeObservationEntry entry).length = segmentV1ObservationEntryLen :=
      length_encodeObservationEntry entry
    have hmore : (entry :: rest).length * segmentV1ObservationEntryLen =
        segmentV1ObservationEntryLen + rest.length * segmentV1ObservationEntryLen := by
      rw [List.length_cons, Nat.add_mul, Nat.one_mul, Nat.add_comm]
    rw [hmore] at hword ⊢
    unfold writeRecent
    rw [add_eq (by omega), pure_bind, Nat.add_assoc]
    have hwrite := @write_recent header series blocks appends recents
      (encodeObservationEntry entry) seriesLeft blocksLeft
      (rest.length * segmentV1ObservationEntryLen + recentsLeft) recentCursor
      (recentCursor + segmentV1ObservationEntryLen) hcursor (by rw [hlen])
    rw [hlen] at hwrite
    rw [hwrite, pure_bind, pure_bind]
    have hnext : header.length + series.length + seriesLeft + blocks.length + blocksLeft +
        appends.length + (recents ++ encodeObservationEntry entry).length =
          recentCursor + segmentV1ObservationEntryLen := by
      rw [List.length_append, hlen]
      omega
    rw [ih hnext (by omega), List.flatMap_cons, List.append_assoc, Nat.add_assoc]

theorem writeAppends_eq {before behind : Bytes} {appendOffset index : Nat}
    {entries : List FrameLocation}
    (hcursor : before.length = appendOffset + index * segmentV1AppendEntryLen)
    (hword : appendOffset + (index + entries.length) * segmentV1AppendEntryLen < wordSize) :
    writeAppends appendOffset entries index
        (before ++ (zeros (entries.length * segmentV1AppendEntryLen) ++ behind)) =
      pure (before ++ (entries.flatMap encodeAppendEntry ++ behind)) := by
  induction entries generalizing before index with
  | nil => simp [writeAppends, zeros]
  | cons entry rest ih =>
    have hlen : (encodeAppendEntry entry).length = segmentV1AppendEntryLen :=
      length_encodeAppendEntry entry
    rw [List.length_cons] at hword ⊢
    have hle := Nat.mul_le_mul_right segmentV1AppendEntryLen
      (by omega : index + 1 ≤ index + (rest.length + 1))
    have hnext : (index + 1) * segmentV1AppendEntryLen =
        index * segmentV1AppendEntryLen + segmentV1AppendEntryLen := by
      rw [Nat.add_mul, Nat.one_mul]
    have hmore : (rest.length + 1) * segmentV1AppendEntryLen =
        segmentV1AppendEntryLen + rest.length * segmentV1AppendEntryLen := by
      rw [Nat.add_mul, Nat.one_mul, Nat.add_comm]
    unfold writeAppends
    rw [mul_eq (by omega), pure_bind, add_eq (by omega), pure_bind, add_eq (by omega), pure_bind,
      hmore]
    have hwrite := @writeZeros before behind (encodeAppendEntry entry)
      (rest.length * segmentV1AppendEntryLen) (appendOffset + index * segmentV1AppendEntryLen)
      (appendOffset + index * segmentV1AppendEntryLen + segmentV1AppendEntryLen) hcursor
      (by rw [hlen])
    rw [hlen] at hwrite
    rw [hwrite, pure_bind]
    have hbefore : (before ++ encodeAppendEntry entry).length =
        appendOffset + (index + 1) * segmentV1AppendEntryLen := by
      rw [List.length_append, hlen]
      omega
    have hrest := ih hbefore (by rw [Nat.add_assoc, Nat.add_comm 1]; exact hword)
    rw [List.append_assoc] at hrest
    rw [hrest, List.flatMap_cons]
    simp only [List.append_assoc]

end Historian.MachineSegment
