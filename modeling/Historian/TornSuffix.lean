import Historian.ActiveRoot
import Historian.FileRules
import Historian.JournalBound

namespace Historian

open Wire Checks Files

/-- A complete frame that the store can append at a root. -/
structure NextFrame (identity : JournalIdentity) (limits : ActiveJournalLimits)
    (root : DurableCutoff) (frame : Bytes) (decoded : DecodedAdmissionV1) : Prop where
  decodes : decodeAdmissionFrameV1 frame limits.decode (floorSequence root.appendSequence) =
    .ok decoded
  store : decoded.storeId = identity.storeId
  numbered : root.appendSequence.val + 1 = decoded.appendSequence.val

section Frame

variable {identity : JournalIdentity} {limits : ActiveJournalLimits} {root : DurableCutoff}
  {frame suffix : Bytes} {decoded : DecodedAdmissionV1}

theorem framePrefix_eq (appendSequence : U64) (payloadLen : Nat) :
    framePrefix appendSequence payloadLen =
      requiredPrefix appendSequence ++ toBE 4 payloadLen := by
  simp [framePrefix, requiredPrefix, frameKindAdmission, frameFlagsNone]

theorem length_requiredPrefix (appendSequence : U64) :
    (requiredPrefix appendSequence).length = 16 := by
  simp [requiredPrefix, journalV1FrameMagic]

/-- The first bytes of the next frame are the ones that a torn frame has to start with. -/
theorem NextFrame.head (h : NextFrame identity limits root frame decoded) :
    frame.take 16 = requiredPrefix decoded.appendSequence := by
  obtain ⟨sequence, hsequence, -, -⟩ := sequence_of_decode h.decodes
  obtain ⟨found, payload, hframe, -, -, hpayload, -⟩ := decodeAdmissionFrameV1_ok.mp h.decodes
  have hfound : found.value = decoded.appendSequence :=
    ((codec_payload found.value).reads _ _ _).mp hpayload |>.1.1
  rw [hframe, frame_eq, framePrefix_eq, List.append_assoc, hfound]
  exact List.take_left' (length_requiredPrefix _)

theorem NextFrame.expected (h : NextFrame identity limits root frame decoded) :
    checkedAdd root.appendSequence 1 = some decoded.appendSequence :=
  checkedAdd_eq_some.mpr h.numbered

theorem NextFrame.sequenceAt (h : NextFrame identity limits root frame decoded) :
    u64At frame 8 = decoded.appendSequence := by
  obtain ⟨sequence, hsequence, hread, -⟩ := sequence_of_decode h.decodes
  rw [hread, hsequence]

/-- What stands in the prefix of a byte string that starts like the next frame. -/
theorem NextFrame.readPrefix (h : NextFrame identity limits root frame decoded)
    (hsame : slice suffix 0 journalV1FramePrefixLen = slice frame 0 journalV1FramePrefixLen) :
    u64At (slice suffix 0 journalV1FramePrefixLen) 8 = decoded.appendSequence ∧
      frameLenFromPrefixV1 (slice suffix 0 journalV1FramePrefixLen) limits.decode =
        .ok frame.length := by
  have hframe := frameLen_of_decode h.decodes []
  rw [List.append_nil] at hframe
  rw [hsame]
  refine ⟨?_, hframe⟩
  rw [← h.sequenceAt]
  unfold u64At
  rw [slice_slice (by decide)]

/-- A torn frame is classified, wherever it is cut. -/
theorem NextFrame.classify_torn (h : NextFrame identity limits root frame decoded)
    (hfront : suffix <+: frame) (hne : suffix ≠ frame) :
    ∃ classification, classifySuffix identity limits decoded.appendSequence
      (floorSequence root.appendSequence) suffix = .ok classification := by
  have hshorter : suffix.length < frame.length := by
    rcases Nat.lt_or_ge suffix.length frame.length with hlt | hge
    · exact hlt
    · exact absurd (hfront.eq_of_length_le hge) hne
  unfold classifySuffix
  by_cases hshort : suffix.length < journalV1FramePrefixLen
  · rw [if_pos hshort]
    refine ⟨.shortFramePrefix, ?_⟩
    rw [then_ok, refuse_ok, not_not]
    refine ⟨?_, rfl⟩
    rw [length_requiredPrefix, ← h.head, List.take_take, Nat.min_comm, ← List.take_take]
    rw [← List.prefix_iff_eq_take.mp hfront]
  · rw [if_neg hshort]
    obtain ⟨rest, hrest⟩ := hfront
    have hsame : slice suffix 0 journalV1FramePrefixLen =
        slice frame 0 journalV1FramePrefixLen := by
      rw [← hrest]
      exact (slice_left (by omega)).symm
    obtain ⟨hsequence, hlen⟩ := h.readPrefix hsame
    refine ⟨.truncatedDeclaredFrame, ?_⟩
    dsimp only
    rw [then_ok, refuse_ok, not_not]
    refine ⟨hsequence, ?_⟩
    rw [hlen]
    dsimp only
    rw [if_pos hshorter]

/-- A complete frame is never classified as torn, whatever stands behind it. -/
theorem NextFrame.classify_complete (h : NextFrame identity limits root frame decoded)
    (hfront : frame <+: suffix) (classification : RecoveryClassification) :
    classifySuffix identity limits decoded.appendSequence (floorSequence root.appendSequence)
      suffix ≠ .ok classification := by
  have hlong := length_of_decode h.decodes
  obtain ⟨rest, rfl⟩ := hfront
  have hsame : slice (frame ++ rest) 0 journalV1FramePrefixLen =
      slice frame 0 journalV1FramePrefixLen := slice_left (by omega)
  obtain ⟨-, hlen⟩ := h.readPrefix hsame
  have hshort : ¬(frame ++ rest).length < journalV1FramePrefixLen := by
    rw [List.length_append]
    omega
  have htorn : ¬(frame ++ rest).length < frame.length := by
    rw [List.length_append]
    omega
  unfold classifySuffix
  rw [if_neg hshort]
  intro hclass
  dsimp only at hclass
  rw [then_ok] at hclass
  obtain ⟨-, hclass⟩ := hclass
  rw [hlen] at hclass
  dsimp only at hclass
  rw [if_neg htorn] at hclass
  by_cases hmore : frame.length < (frame ++ rest).length
  · rw [if_pos hmore] at hclass
    cases hclass
  · rw [if_neg hmore, slice_head rfl, h.decodes] at hclass
    dsimp only at hclass
    split at hclass
    next => cases hclass
    next => cases hclass

end Frame

section File

variable {identity : JournalIdentity} {sequenceFloor : U64} {limits : ActiveJournalLimits}
  {root : DurableCutoff} {records : List RecoveredAdmissionV1} {suffix file : Bytes}
  {state : CheckpointState}

namespace JournalFile

theorem header (h : JournalFile identity sequenceFloor limits root records suffix file) :
    slice file 0 journalV1HeaderLen = encodeHeader identity.storeId := by
  obtain ⟨body, hfile, -, -⟩ := h.holds
  rw [hfile]
  exact slice_head (length_encodeHeader _)

/-- The bytes behind the root are the suffix. -/
theorem drop_root (h : JournalFile identity sequenceFloor limits root records suffix file) :
    file.drop root.endOffset.val = suffix := by
  obtain ⟨body, hfile, -, hend⟩ := h.holds
  rw [hfile, ← List.append_assoc, hend, ← length_encodeHeader identity.storeId,
    ← List.length_append, List.drop_left]

theorem length_file (h : JournalFile identity sequenceFloor limits root records suffix file) :
    file.length = root.endOffset.val + suffix.length := by
  obtain ⟨body, hfile, -, hend⟩ := h.holds
  rw [hfile, hend, List.length_append, List.length_append, length_encodeHeader]
  omega

theorem length_u64 (h : JournalFile identity sequenceFloor limits root records suffix file) :
    (Fin.ofNat (2 ^ 64) file.length).val = file.length := by
  have hbound := h.bound
  have hlimit := limits.bytes_le
  have hmax : maxActiveJournalBytes < 2 ^ 64 := by decide
  exact Nat.mod_eq_of_lt (by omega)

/-- The file that is cut off at the root holds the same records and no suffix. -/
theorem take_root (h : JournalFile identity sequenceFloor limits root records suffix file) :
    JournalFile identity sequenceFloor limits root records [] (file.take root.endOffset.val) := by
  have hbound := h.bound
  obtain ⟨body, hfile, hframes, hend⟩ := h.holds
  refine ⟨⟨body, ?_, hframes, hend⟩, h.last, h.count, ?_⟩
  · rw [hfile, ← List.append_assoc, hend, ← length_encodeHeader identity.storeId,
      ← List.length_append, List.take_left, List.append_nil]
  · rw [List.length_take]
    omega

end JournalFile

/-- The only bytes that can follow a root in a file are those behind its end. -/
theorem scanManifestRoot_suffix {scan : ScanResult}
    (h : JournalFile identity sequenceFloor limits root records suffix file)
    (hroot : root = durableCutoffFromState identity state)
    (hscan : scanManifestRoot file identity limits state sequenceFloor root = .ok scan) :
    JournalFile identity sequenceFloor limits root scan.records suffix file ∧
      scan.validEnd = root.endOffset ∧ scan.truncateTo = none ∧
      SuffixPlan identity limits root suffix file scan.recoveryPlan := by
  obtain ⟨found, hholds, hscan⟩ := (scanManifestRoot_ok h.header h.bound hroot).mp hscan
  have hsame : found = suffix := hholds.drop_root.symm.trans h.drop_root
  subst hsame
  exact ⟨hholds, hscan⟩

/-- A torn suffix leads to a plan that cuts the file off at the root. -/
theorem scanManifestRoot_torn
    (h : JournalFile identity sequenceFloor limits root records suffix file)
    (hroot : root = durableCutoffFromState identity state) (hne : suffix ≠ [])
    {frame : Bytes} {decoded : DecodedAdmissionV1}
    (hnext : NextFrame identity limits root frame decoded) (hfront : suffix <+: frame)
    (hproper : suffix ≠ frame) :
    ∃ plan, scanManifestRoot file identity limits state sequenceFloor root =
      .ok ⟨records, root.endOffset, none, some plan⟩ := by
  obtain ⟨classification, hclass⟩ := hnext.classify_torn hfront hproper
  refine ⟨⟨identity, root, Fin.ofNat _ file.length, classification⟩, ?_⟩
  refine (scanManifestRoot_ok h.header h.bound hroot).mpr ⟨suffix, h, rfl, rfl, ?_⟩
  exact Or.inr ⟨hne, decoded.appendSequence, classification, hnext.expected, hclass, rfl⟩

theorem scanManifestRoot_complete
    (h : JournalFile identity sequenceFloor limits root records suffix file)
    (hroot : root = durableCutoffFromState identity state)
    {frame : Bytes} {decoded : DecodedAdmissionV1}
    (hnext : NextFrame identity limits root frame decoded) (hfront : frame <+: suffix)
    {scan : ScanResult}
    (hscan : scanManifestRoot file identity limits state sequenceFloor root = .ok scan) :
    scan.recoveryPlan = none := by
  obtain ⟨-, -, -, hplan⟩ := scanManifestRoot_suffix h hroot hscan
  rcases hplan with ⟨-, hnone⟩ | ⟨-, expected, classification, hadd, hclass, -⟩
  · exact hnone
  · rw [hnext.expected, Option.some.injEq] at hadd
    subst hadd
    exact absurd hclass (hnext.classify_complete hfront classification)

/-- What a store does with a plan: the file is cut off at the root and nothing else changes. -/
theorem applyRecovery_ok {scan : ScanResult} {plan : ActiveRecoveryPlan} {d : StoreDirectory}
    (h : JournalFile identity sequenceFloor limits root records suffix file)
    (hroot : root = durableCutoffFromState identity state)
    (hscan : scanManifestRoot file identity limits state sequenceFloor root = .ok scan)
    (hplan : scan.recoveryPlan = some plan)
    (hfile : d.lookup (.activeJournal identity.generation) = some file) :
    (⟨identity, limits, state, scan.validEnd, scan.records, .writable⟩ :
        ActiveJournal).applyRecovery plan d =
      (.ok (), [.put (.activeJournal identity.generation) (file.take root.endOffset.val)]) := by
  obtain ⟨-, hend, -, hsuffix⟩ := scanManifestRoot_suffix h hroot hscan
  rcases hsuffix with ⟨-, hnone⟩ | ⟨hne, expected, classification, -, -, hsome⟩
  · rw [hnone] at hplan
    cases hplan
  · rw [hsome, Option.some.injEq] at hplan
    subst hplan
    have hlen := h.length_file
    have hval := h.length_u64
    have hpositive : 0 < suffix.length := List.length_pos_iff.mpr hne
    have hlonger : ¬(Fin.ofNat (2 ^ 64) file.length ≤ root.endOffset) := by
      rw [Fin.le_def, hval]
      omega
    unfold ActiveJournal.applyRecovery readFile
    rw [run_ensure_bind]
    dsimp only [ActiveJournal.ensureUsable]
    rw [run_look_bind, hfile]
    dsimp only [Except.mapError]
    rw [run_ensure_bind]
    have hchecks : refuse (identity ≠ identity ∨ root ≠ (⟨identity, limits, state, scan.validEnd,
        scan.records, .writable⟩ : ActiveJournal).durableCutoff ∨
        (Fin.ofNat (2 ^ 64) file.length).val ≠ file.length ∨ scan.validEnd ≠ root.endOffset ∨
        Fin.ofNat (2 ^ 64) file.length ≤ scan.validEnd) ActiveJournalError.invalidLayout =
        .ok () := by
      rw [refuse_ok]
      simp only [not_or, not_not]
      exact ⟨trivial, hroot, hval, hend, by rw [hend]; exact hlonger⟩
    rw [hchecks, hend]
    rfl

end File

/-- A suffix behind a root is taken for a torn write when it is one, and never when it starts with
a frame that is whole; a plan names the root, and behind it the journal is the bytes up to the
root, with the records that were read and the same checkpoint. -/
theorem torn_suffix_exact (identity : JournalIdentity) (sequenceFloor : U64)
    (limits : ActiveJournalLimits) (root : DurableCutoff) (state : CheckpointState)
    (records : List RecoveredAdmissionV1) (suffix file : Bytes)
    (hfile : JournalFile identity sequenceFloor limits root records suffix file)
    (hroot : root = durableCutoffFromState identity state) (hne : suffix ≠ []) :
    (∀ frame decoded, NextFrame identity limits root frame decoded → suffix <+: frame →
      suffix ≠ frame → ∃ plan, scanManifestRoot file identity limits state sequenceFloor root =
        .ok ⟨records, root.endOffset, none, some plan⟩) ∧
    (∀ frame decoded scan, NextFrame identity limits root frame decoded → frame <+: suffix →
      scanManifestRoot file identity limits state sequenceFloor root = .ok scan →
      scan.recoveryPlan = none) ∧
    ∀ scan plan, scanManifestRoot file identity limits state sequenceFloor root = .ok scan →
      scan.recoveryPlan = some plan →
      plan.cutoff = root ∧
      ∀ d : StoreDirectory, d.lookup (.activeJournal identity.generation) = some file →
        ∃ effects, (⟨identity, limits, state, scan.validEnd, scan.records, .writable⟩ :
            ActiveJournal).applyRecovery plan d = (.ok (), effects) ∧
          (applyAll d effects).lookup (.activeJournal identity.generation) =
            some (file.take root.endOffset.val) ∧
          file = file.take root.endOffset.val ++ suffix ∧
          scanManifestRoot (file.take root.endOffset.val) identity limits state sequenceFloor root =
            .ok ⟨scan.records, root.endOffset, none, none⟩ ∧
          ∀ name, name ≠ .activeJournal identity.generation →
            (applyAll d effects).lookup name = d.lookup name := by
  refine ⟨?_, ?_, ?_⟩
  · intro frame decoded hnext hfront hproper
    exact scanManifestRoot_torn hfile hroot hne hnext hfront hproper
  · intro frame decoded scan hnext hfront hscan
    exact scanManifestRoot_complete hfile hroot hnext hfront hscan
  · intro scan plan hscan hplan
    obtain ⟨hholds, -, -, hsuffix⟩ := scanManifestRoot_suffix hfile hroot hscan
    have hcutoff : plan.cutoff = root := by
      rcases hsuffix with ⟨hnil, -⟩ | ⟨-, expected, classification, -, -, hsome⟩
      · exact absurd hnil hne
      · rw [hsome, Option.some.injEq] at hplan
        rw [← hplan]
    refine ⟨hcutoff, ?_⟩
    intro d hlookup
    refine ⟨_, applyRecovery_ok hfile hroot hscan hplan hlookup, ?_, ?_, ?_, ?_⟩
    · rw [applyAll_cons, applyAll_nil, lookup_put, if_pos rfl]
    · rw [← hfile.drop_root, List.take_append_drop]
    · have htaken := hholds.take_root
      exact (scanManifestRoot_ok htaken.header htaken.bound hroot).mpr
        ⟨[], htaken, rfl, rfl, Or.inl ⟨rfl, rfl⟩⟩
    · intro name hname
      rw [applyAll_cons, applyAll_nil, lookup_put, if_neg hname]

/-- The first frame of a journal is durable, and the second one was cut off inside its prefix. -/
theorem torn_suffix_exact_sample : ∃ (first second : Bytes) (endOffset : U64) (plan : _),
    let identity : JournalIdentity := ⟨sampleIdentity 1, 1⟩
    let root := durableCutoffFromState identity ⟨2, 1, endOffset⟩
    let follower := { sampleDecoded with appendSequence := 2 }
    decodeAdmissionFrameV1 first .maximum none = .ok sampleDecoded ∧
      decodeAdmissionFrameV1 second .maximum none = .ok follower ∧
      (second.take 5).length = 5 ∧
      scanManifestRoot (encodeHeader (sampleIdentity 1) ++ (first ++ second.take 5)) identity
        sampleJournalLimits ⟨2, 1, endOffset⟩ 0 root =
          .ok ⟨[⟨endOffset, sampleDecoded⟩], endOffset, none, some plan⟩ ∧
      plan.cutoff = root := by
  obtain ⟨first, -, hfirst⟩ := sampleDecoded_frame
  obtain ⟨second, -, hsecond⟩ := @exists_frame_of_valid { sampleDecoded with appendSequence := 2 }
    (by decide +kernel) (by decide)
  have hlong := length_of_decode hsecond
  have hshort := length_le_of_decode hfirst
  simp only [journalV1FramePrefixLen, maxAdmissionPayloadV1, journalV1FrameCrcLen] at hlong hshort
  have hheader : journalV1HeaderLen = 28 := rfl
  have hend : journalV1HeaderLen + first.length < 2 ^ 64 := by omega
  have hlen : (second.take 5).length = 5 := by
    rw [List.length_take]
    omega
  have hnext : NextFrame ⟨sampleIdentity 1, 1⟩ sampleJournalLimits
      (durableCutoffFromState ⟨sampleIdentity 1, 1⟩ ⟨2, 1, ⟨_, hend⟩⟩) second
      { sampleDecoded with appendSequence := 2 } := by
    refine ⟨decode_behind hsecond ?_, rfl, rfl⟩
    intro before hbefore
    cases hbefore
    rfl
  have hframes : Frames (sampleIdentity 1) sampleJournalLimits.decode (floorSequence 0)
      journalV1HeaderLen [⟨⟨journalV1HeaderLen + first.length, hend⟩, sampleDecoded⟩]
      (first ++ []) :=
    Frames.cons hfirst rfl rfl rfl (show sampleDecoded.appendSequence = sampleSequence.value
      from rfl) .nil
  have hfile : JournalFile ⟨sampleIdentity 1, 1⟩ 0 sampleJournalLimits
      (durableCutoffFromState ⟨sampleIdentity 1, 1⟩ ⟨2, 1, ⟨_, hend⟩⟩)
      [⟨⟨journalV1HeaderLen + first.length, hend⟩, sampleDecoded⟩] (second.take 5)
      (encodeHeader (sampleIdentity 1) ++ (first ++ second.take 5)) := by
    rw [List.append_nil] at hframes
    refine ⟨⟨first, rfl, hframes, rfl⟩, rfl,
      show 1 ≤ sampleJournalLimits.recordLimit by decide, ?_⟩
    have hbytes : sampleJournalLimits.activeBytes = maxActiveJournalBytes := rfl
    rw [List.length_append, List.length_append, length_encodeHeader, hlen, hbytes]
    simp only [maxActiveJournalBytes]
    omega
  have hne : second.take 5 ≠ [] := by
    intro hnil
    rw [hnil] at hlen
    cases hlen
  have hproper : second.take 5 ≠ second := by
    intro hsame
    rw [hsame] at hlen
    omega
  obtain ⟨htorn, -, hplans⟩ := torn_suffix_exact ⟨sampleIdentity 1, 1⟩ 0 sampleJournalLimits _
    ⟨2, 1, ⟨_, hend⟩⟩ _ _ _ hfile rfl hne
  obtain ⟨plan, hscan⟩ := htorn second _ hnext (List.take_prefix 5 second) hproper
  exact ⟨first, second, ⟨_, hend⟩, plan, hfirst, hsecond, hlen, hscan, (hplans _ plan hscan rfl).1⟩

end Historian
