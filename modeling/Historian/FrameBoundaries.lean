import Historian.JournalFrames
import Historian.StoreRotation

namespace Historian

open Wire Checks Files

variable {limits : DecodeLimitsV1}

/-- The frames of a byte string, each cut off at the length that its prefix announces. A round
consumes bytes, so a fuel of the length of the string is never used up. -/
def splitFrames (limits : DecodeLimitsV1) : Nat → Bytes → Except JournalV1Error (List Bytes)
  | 0, rest => do
    refuse (rest ≠ []) .truncated
    pure []
  | fuel + 1, rest =>
    if rest = [] then pure []
    else do
      refuse (rest.length < journalV1FramePrefixLen) .truncated
      let frameLen ← frameLenFromPrefixV1 (slice rest 0 journalV1FramePrefixLen) limits
      refuse (rest.length < frameLen) .truncated
      let frames ← splitFrames limits fuel (rest.drop frameLen)
      pure (slice rest 0 frameLen :: frames)

theorem frameLen_bounds {bytes : Bytes} {frameLen : Nat}
    (h : frameLenFromPrefixV1 bytes limits = .ok frameLen) :
    journalV1FramePrefixLen + journalV1FrameCrcLen ≤ frameLen ∧
      frameLen ≤ limits.maxPayloadLen + (journalV1FramePrefixLen + journalV1FrameCrcLen) := by
  unfold frameLenFromPrefixV1 at h
  simp only [bind_ok, exists_unit, refuse_ok, pure_ok, not_or, Nat.not_lt] at h
  obtain ⟨-, -, -, -, -, _, -, ⟨-, hlimit⟩, rfl⟩ := h
  omega

/-- One round of a scan: the bytes behind the frame at the front. -/
def FrameAdvance (limits : DecodeLimitsV1) (next rest : Bytes) : Prop :=
  ∃ frameLen, frameLenFromPrefixV1 (slice rest 0 journalV1FramePrefixLen) limits = .ok frameLen ∧
    frameLen ≤ rest.length ∧ next = rest.drop frameLen

theorem FrameAdvance.length_lt {next rest : Bytes} (h : FrameAdvance limits next rest) :
    next.length + (journalV1FramePrefixLen + journalV1FrameCrcLen) ≤ rest.length := by
  obtain ⟨frameLen, hframe, hlength, rfl⟩ := h
  have hbounds := frameLen_bounds hframe
  rw [List.length_drop]
  omega

theorem frameAdvance_wellFounded : WellFounded (FrameAdvance limits) := by
  refine Subrelation.wf ?_ (measure List.length).wf
  intro next rest h
  have hlength := h.length_lt
  change next.length < rest.length
  unfold journalV1FramePrefixLen at hlength
  omega

/-- Frames in a row are cut apart where they were joined. -/
theorem splitFrames_flatten {frames : List Bytes} (h : ∀ bytes ∈ frames,
    ∃ (sequence : AppendSequenceV1) (payload : Bytes), bytes = frame sequence.value payload ∧
      payload.length ≤ limits.maxPayloadLen) {fuel : Nat} (hfuel : frames.flatten.length ≤ fuel) :
    splitFrames limits fuel frames.flatten = .ok frames := by
  induction frames generalizing fuel with
  | nil =>
    cases fuel with
    | zero => rfl
    | succ fuel => rfl
  | cons bytes rest ih =>
    obtain ⟨⟨sequence, payload, rfl, hlimit⟩, hrest⟩ := List.forall_mem_cons.mp h
    have hlength := length_frame sequence.value payload
    have h20 : journalV1FramePrefixLen = 20 := rfl
    rw [List.flatten_cons, List.length_append] at hfuel
    rw [List.flatten_cons]
    cases fuel with
    | zero => omega
    | succ fuel =>
      have hne : frame sequence.value payload ++ rest.flatten ≠ [] := by
        apply List.ne_nil_of_length_pos
        rw [List.length_append]
        omega
      unfold splitFrames
      rw [if_neg hne, frameLen_of_frame sequence hlimit]
      unfold journalV1FrameCrcLen at hlength
      simp only [bind_ok, exists_unit, refuse_ok, pure_ok, Nat.not_lt, Except.ok.injEq,
        exists_eq_left', List.length_append, List.drop_left, slice_head rfl]
      exact ⟨by omega, by omega, rest, ih hrest (by omega), rfl⟩

theorem encodeAdmissionFrameV1_frame {sequence : AppendSequenceV1}
    {admission : CanonicalAdmission} {bytes : Bytes}
    (h : encodeAdmissionFrameV1 sequence admission = .ok bytes) :
    ∃ payload : Bytes, bytes = frame sequence.value payload ∧
      payload.length ≤ maxAdmissionPayloadV1 := by
  unfold encodeAdmissionFrameV1 frameBytes at h
  simp only [bind_ok, exists_unit, refuse_ok, pure_ok, Nat.not_lt] at h
  obtain ⟨payload, -, hlimit, rfl⟩ := h
  exact ⟨payload, rfl, hlimit⟩

/-- Every frame consumes bytes, so more fuel than bytes changes nothing. -/
theorem splitFrames_fuel {fuel fuel' : Nat} {rest : Bytes} (h : rest.length ≤ fuel)
    (h' : rest.length ≤ fuel') : splitFrames limits fuel rest = splitFrames limits fuel' rest := by
  have h20 : journalV1FramePrefixLen = 20 := rfl
  induction fuel generalizing fuel' rest with
  | zero =>
    have hnil : rest = [] := List.eq_nil_of_length_eq_zero (by omega)
    subst hnil
    cases fuel' with
    | zero => rfl
    | succ fuel' => rfl
  | succ fuel ih =>
    by_cases hnil : rest = []
    · subst hnil
      cases fuel' with
      | zero => rfl
      | succ fuel' => rfl
    · have hpositive := List.length_pos_iff.mpr hnil
      cases fuel' with
      | zero => omega
      | succ fuel' =>
        unfold splitFrames
        rw [if_neg hnil, if_neg hnil]
        cases hframe : frameLenFromPrefixV1 (slice rest 0 journalV1FramePrefixLen) limits with
        | error e => rfl
        | ok frameLen =>
          have hbounds := (frameLen_bounds hframe).1
          have hdrop : (rest.drop frameLen).length ≤ fuel ∧
              (rest.drop frameLen).length ≤ fuel' := by
            rw [List.length_drop]
            omega
          have hsame := ih hdrop.1 hdrop.2
          change (do refuse _ _; refuse _ _; let frames ← splitFrames limits fuel _; _) = _
          rw [hsame]
          rfl

section Scans

variable {identity : JournalIdentity} {activeLimits : ActiveJournalLimits}

theorem scanFrames_fuel {checkpoint : CheckpointState} {fuel fuel' count : Nat} {offset : U64}
    {previous : Option AppendSequenceV1} {rest : Bytes} (h : rest.length ≤ fuel)
    (h' : rest.length ≤ fuel') :
    scanFrames identity activeLimits checkpoint fuel count offset previous rest =
      scanFrames identity activeLimits checkpoint fuel' count offset previous rest := by
  have h20 : journalV1FramePrefixLen = 20 := rfl
  induction fuel generalizing fuel' count offset previous rest with
  | zero =>
    have hnil : rest = [] := List.eq_nil_of_length_eq_zero (by omega)
    subst hnil
    cases fuel' with
    | zero => rfl
    | succ fuel' => rfl
  | succ fuel ih =>
    by_cases hnil : rest = []
    · subst hnil
      cases fuel' with
      | zero => rfl
      | succ fuel' => rfl
    · have hpositive := List.length_pos_iff.mpr hnil
      cases fuel' with
      | zero => omega
      | succ fuel' =>
        unfold scanFrames
        rw [if_neg hnil, if_neg hnil]
        cases hframe : frameLenFromPrefixV1 (slice rest 0 journalV1FramePrefixLen)
          activeLimits.decode with
        | error e => rfl
        | ok frameLen =>
          have hbounds := (frameLen_bounds hframe).1
          have hdrop : (rest.drop frameLen).length ≤ fuel ∧
              (rest.drop frameLen).length ≤ fuel' := by
            rw [List.length_drop]
            omega
          simp only [ih hdrop.1 hdrop.2]

theorem scanRootFrames_fuel {root : DurableCutoff} {fuel fuel' count : Nat} {offset : U64}
    {previous : Option AppendSequenceV1} {rest : Bytes} (h : rest.length < fuel)
    (h' : rest.length < fuel') :
    scanRootFrames identity activeLimits root fuel count offset previous rest =
      scanRootFrames identity activeLimits root fuel' count offset previous rest := by
  have h20 : journalV1FramePrefixLen = 20 := rfl
  induction fuel generalizing fuel' count offset previous rest with
  | zero => omega
  | succ fuel ih =>
    cases fuel' with
    | zero => omega
    | succ fuel' =>
      unfold scanRootFrames
      cases hframe : frameLenFromPrefixV1 (slice rest 0 journalV1FramePrefixLen)
        activeLimits.decode with
      | error e => rfl
      | ok frameLen =>
        have hbounds := (frameLen_bounds hframe).1
        by_cases hshort : rest.length < frameLen
        · simp only [Except.mapError, ok_then, refuse, if_pos hshort, error_then]
        · have hdrop : (rest.drop frameLen).length < fuel ∧
              (rest.drop frameLen).length < fuel' := by
            rw [List.length_drop]
            omega
          simp only [Except.mapError, ok_then, ih hdrop.1 hdrop.2]

theorem scanSealedFrames_fuel {storeId : StoreId} {registry : SeriesRegistry} {endOffset : U64}
    {fuel fuel' count : Nat} {offset : U64} {previous : Option AppendSequenceV1} {rest : Bytes}
    (h : rest.length < fuel) (h' : rest.length < fuel') :
    scanSealedFrames storeId activeLimits registry endOffset fuel count offset previous rest =
      scanSealedFrames storeId activeLimits registry endOffset fuel' count offset previous
        rest := by
  have h20 : journalV1FramePrefixLen = 20 := rfl
  induction fuel generalizing fuel' count offset previous rest with
  | zero => omega
  | succ fuel ih =>
    cases fuel' with
    | zero => omega
    | succ fuel' =>
      unfold scanSealedFrames
      cases hframe : frameLenFromPrefixV1 (slice rest 0 journalV1FramePrefixLen)
        activeLimits.decode with
      | error e => rfl
      | ok frameLen =>
        have hbounds := (frameLen_bounds hframe).1
        by_cases hshort : rest.length < frameLen
        · simp only [Except.mapError, ok_then, refuse, if_pos hshort, error_then]
        · have hdrop : (rest.drop frameLen).length < fuel ∧
              (rest.drop frameLen).length < fuel' := by
            rw [List.length_drop]
            omega
          simp only [Except.mapError, ok_then, ih hdrop.1 hdrop.2]

end Scans

/-- The boundaries of the frames stand in the frames. Frames in a row are cut apart where they
were joined, as soon as the payloads are within the limits; the announced length leaves room for
the prefix and the checksum and for nothing beyond the limit; the prefix of every frame that
decodes announces the length of the frame; and a round of a scan leaves fewer bytes, so that the
scans give the same answer for every fuel that the bytes fit in. -/
theorem frame_boundaries (limits : DecodeLimitsV1) :
    (∀ frames : List Bytes,
      (∀ bytes ∈ frames, bytes.length ≤ limits.maxPayloadLen + 24 ∧
        ∃ sequence admission, encodeAdmissionFrameV1 sequence admission = .ok bytes) →
      splitFrames limits frames.flatten.length frames.flatten = .ok frames) ∧
    (∀ frames : List Bytes,
      (∀ bytes ∈ frames,
        ∃ sequence admission, encodeAdmissionFrameV1 sequence admission = .ok bytes) →
      splitFrames .maximum frames.flatten.length frames.flatten = .ok frames) ∧
    (∀ bytes frameLen, frameLenFromPrefixV1 bytes limits = .ok frameLen →
      24 ≤ frameLen ∧ frameLen ≤ limits.maxPayloadLen + 24) ∧
    (∀ bytes previous decoded, decodeAdmissionFrameV1 bytes limits previous = .ok decoded →
      frameLenFromPrefixV1 (slice bytes 0 journalV1FramePrefixLen) limits = .ok bytes.length) ∧
    WellFounded (FrameAdvance limits) ∧
    (∀ fuel rest, rest.length ≤ fuel →
      splitFrames limits fuel rest = splitFrames limits rest.length rest) ∧
    (∀ identity activeLimits checkpoint fuel count offset previous rest, rest.length ≤ fuel →
      scanFrames identity activeLimits checkpoint fuel count offset previous rest =
        scanFrames identity activeLimits checkpoint rest.length count offset previous rest) ∧
    (∀ identity activeLimits root fuel count offset previous rest, rest.length < fuel →
      scanRootFrames identity activeLimits root fuel count offset previous rest =
        scanRootFrames identity activeLimits root (rest.length + 1) count offset previous rest) ∧
    ∀ storeId activeLimits registry endOffset fuel count offset previous rest,
      rest.length < fuel →
      scanSealedFrames storeId activeLimits registry endOffset fuel count offset previous rest =
        scanSealedFrames storeId activeLimits registry endOffset (rest.length + 1) count offset
          previous rest := by
  refine ⟨?split, ?whole, ?bounds, ?announced, frameAdvance_wellFounded, ?fuel, ?active, ?root,
    ?sealed⟩
  case split =>
    intro frames h
    apply splitFrames_flatten ?_ (Nat.le_refl _)
    intro bytes hbytes
    obtain ⟨hlimit, sequence, admission, hencode⟩ := h bytes hbytes
    obtain ⟨payload, rfl, -⟩ := encodeAdmissionFrameV1_frame hencode
    have hlength := length_frame sequence.value payload
    unfold journalV1FramePrefixLen journalV1FrameCrcLen at hlength
    exact ⟨sequence, payload, rfl, by omega⟩
  case whole =>
    intro frames h
    apply splitFrames_flatten ?_ (Nat.le_refl _)
    intro bytes hbytes
    obtain ⟨sequence, admission, hencode⟩ := h bytes hbytes
    obtain ⟨payload, rfl, hlimit⟩ := encodeAdmissionFrameV1_frame hencode
    exact ⟨sequence, payload, rfl, hlimit⟩
  case bounds =>
    intro bytes frameLen h
    have hbounds := frameLen_bounds h
    unfold journalV1FramePrefixLen journalV1FrameCrcLen at hbounds
    omega
  case announced =>
    intro bytes previous decoded h
    have hframe := frameLen_of_decode h []
    rwa [List.append_nil] at hframe
  case fuel =>
    intro fuel rest h
    exact splitFrames_fuel h (Nat.le_refl _)
  case active =>
    intro identity activeLimits checkpoint fuel count offset previous rest h
    exact scanFrames_fuel h (Nat.le_refl _)
  case root =>
    intro identity activeLimits root fuel count offset previous rest h
    exact scanRootFrames_fuel h (Nat.lt_succ_self _)
  case sealed =>
    intro storeId activeLimits registry endOffset fuel count offset previous rest h
    exact scanSealedFrames_fuel h (Nat.lt_succ_self _)

end Historian
