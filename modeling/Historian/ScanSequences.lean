import Historian.ActiveRoot
import Historian.StoreRotation

namespace Historian

open Wire Checks Files

/-- The sequence of the frame at the front of a byte string, when a whole valid one is there. -/
def frontSequence (limits : DecodeLimitsV1) (rest : Bytes) : Option U64 :=
  match frameLenFromPrefixV1 (slice rest 0 journalV1FramePrefixLen) limits with
  | .error _ => none
  | .ok frameLen =>
    if rest.length < frameLen then none
    else (decodeAdmissionFrameV1 (slice rest 0 frameLen) limits none).toOption.map
      (·.appendSequence)

/-- Behind a positive floor every scan compares the first frame with it. Behind the floor zero
the frame that follows the header has to bring the sequence one by itself. -/
def StartsBehind (sequenceFloor : U64) (limits : ActiveJournalLimits) (file : Bytes) : Prop :=
  sequenceFloor ≠ 0 ∨
    ∀ sequence ∈ frontSequence limits.decode (file.drop journalV1HeaderLen), sequence = 1

/-- The artifact holds exactly the frames behind the floor up to the cutoff of the generation;
nothing follows them when the generation ends with its artifact. -/
def HoldsSealed (storeId : StoreId) (limits : ActiveJournalLimits) (expected : SealedGeneration)
    (file : Bytes) : Prop :=
  ∃ records body tail, file = encodeHeader storeId ++ (body ++ tail) ∧
    Frames storeId limits.decode (floorSequence expected.sequenceFloor) journalV1HeaderLen records
      body ∧ expected.endOffset.val = journalV1HeaderLen + body.length ∧
    expected.artifactLength.val = expected.endOffset.val + tail.length ∧
    Numbered expected.sequenceFloor records ∧
    lastSequence expected.sequenceFloor records = expected.sequenceCutoff

section Front

variable {storeId : StoreId} {limits : DecodeLimitsV1} {offset : Nat} {body : Bytes}

theorem frontSequence_frames {records : List RecoveredAdmissionV1} {record : RecoveredAdmissionV1}
    (h : Frames storeId limits none offset (record :: records) body) (tail : Bytes) :
    frontSequence limits (body ++ tail) = some record.admission.appendSequence := by
  cases h with
  | cons decodes =>
    unfold frontSequence
    rw [List.append_assoc, frameLen_of_decode decodes]
    dsimp only
    rw [if_neg (by simp), slice_head rfl, decodes]
    rfl

theorem frontSequence_none {rest : Bytes}
    (h : ∀ frameLen decoded,
      frameLenFromPrefixV1 (slice rest 0 journalV1FramePrefixLen) limits = .ok frameLen →
      frameLen ≤ rest.length →
      decodeAdmissionFrameV1 (slice rest 0 frameLen) limits none ≠ .ok decoded) :
    frontSequence limits rest = none := by
  unfold frontSequence
  split
  next => rfl
  next frameLen hframe =>
    split
    next => rfl
    next hwhole =>
      cases hdecode : decodeAdmissionFrameV1 (slice rest 0 frameLen) limits none with
      | error e => rfl
      | ok decoded => exact absurd hdecode (h frameLen decoded hframe (Nat.not_lt.mp hwhole))

theorem length_of_frameLen {bytes : Bytes} {frameLen : Nat}
    (h : frameLenFromPrefixV1 bytes limits = .ok frameLen) :
    bytes.length = journalV1FramePrefixLen := by
  unfold frameLenFromPrefixV1 at h
  simp only [bind_ok, exists_unit, refuse_ok, not_not] at h
  exact h.1

theorem floorSequence_zero : floorSequence 0 = none := rfl

/-- The records of a scan are numbered from the floor exactly when they start behind it. -/
theorem numbered_iff_startsBehind {floor : U64} {activeLimits : ActiveJournalLimits}
    {records : List RecoveredAdmissionV1} {file tail : Bytes}
    (h : Frames storeId activeLimits.decode (floorSequence floor) offset records body)
    (hfile : file.drop journalV1HeaderLen = body ++ tail)
    (hempty : records = [] → floor = 0 → frontSequence activeLimits.decode (body ++ tail) = none) :
    Numbered floor records ↔ StartsBehind floor activeLimits file := by
  obtain ⟨hbehind, hrest⟩ := h.numbered_tail
  unfold StartsBehind
  rw [hfile]
  by_cases hfloor : floor = 0
  · subst hfloor
    rw [floorSequence_zero] at h
    cases records with
    | nil => simp [Numbered, hempty rfl rfl]
    | cons record rest =>
      have hfirst := frontSequence_frames h tail
      have htail := hrest record rest rfl
      rw [hfirst]
      simp only [ne_eq, not_true_eq_false, Option.mem_some_iff, forall_eq', false_or, Numbered,
        htail, and_true]
      constructor
      · intro hone
        apply Fin.ext
        exact hone.symm
      · intro hone
        rw [hone]
        rfl
  · have hpos : 0 < floor.val := by
      have hne : floor.val ≠ 0 := fun hzero => hfloor (Fin.ext hzero)
      omega
    have hmem : (⟨floor, hpos⟩ : AppendSequenceV1) ∈ floorSequence floor := by
      rw [Option.mem_def, floorSequence_eq_some]
    exact ⟨fun _ => Or.inl hfloor, fun _ => hbehind _ hmem⟩

end Front

section Scans

variable {identity : JournalIdentity} {limits : ActiveJournalLimits}

/-- What the scan of a whole file has found when it succeeds. Nothing is found only when no
whole valid frame is there. -/
theorem scanFrames_sound {checkpoint : CheckpointState} {fuel count : Nat} {offset : U64}
    {previous : Option AppendSequenceV1} {rest : Bytes} {scan : ScanResult}
    (h : scanFrames identity limits checkpoint fuel count offset previous rest = .ok scan) :
    ∃ body tail, rest = body ++ tail ∧
      Frames identity.storeId limits.decode previous offset.val scan.records body ∧
      (scan.records = [] → previous = none → frontSequence limits.decode rest = none) := by
  have hstop : ∀ {offset : U64} {previous : Option AppendSequenceV1} {rest : Bytes},
      (previous = none → ∀ frameLen decoded,
        frameLenFromPrefixV1 (slice rest 0 journalV1FramePrefixLen) limits.decode = .ok frameLen →
        frameLen ≤ rest.length →
        decodeAdmissionFrameV1 (slice rest 0 frameLen) limits.decode none ≠ .ok decoded) →
      ∃ body tail, rest = body ++ tail ∧
        Frames identity.storeId limits.decode previous offset.val [] body ∧
        (([] : List RecoveredAdmissionV1) = [] → previous = none →
          frontSequence limits.decode rest = none) := by
    intro offset previous rest hnone
    exact ⟨[], rest, rfl, .nil, fun _ hprevious => frontSequence_none (hnone hprevious)⟩
  have hlong : ∀ {rest : Bytes} {frameLen : Nat},
      frameLenFromPrefixV1 (slice rest 0 journalV1FramePrefixLen) limits.decode = .ok frameLen →
      journalV1FramePrefixLen ≤ rest.length := by
    intro rest frameLen hframe
    have hlen := length_of_frameLen hframe
    simp only [slice, List.drop_zero, List.length_take] at hlen
    omega
  induction fuel generalizing count offset previous rest scan with
  | zero =>
    unfold scanFrames at h
    split at h
    next hrest =>
      cases h
      refine hstop fun _ frameLen decoded hframe => ?_
      have hlen := hlong hframe
      simp [hrest, journalV1FramePrefixLen] at hlen
    next => cases h
  | succ fuel ih =>
    unfold scanFrames at h
    split at h
    next hrest =>
      cases h
      refine hstop fun _ frameLen decoded hframe => ?_
      have hlen := hlong hframe
      simp [hrest, journalV1FramePrefixLen] at hlen
    next =>
      rw [then_ok] at h
      obtain ⟨-, h⟩ := h
      split at h
      next hshort =>
        rw [then_ok, pure_ok] at h
        obtain ⟨-, rfl⟩ := h
        refine hstop fun _ frameLen decoded hframe => ?_
        have hlen := hlong hframe
        omega
      next =>
        split at h
        next hframe =>
          split at h
          next =>
            cases h
            refine hstop fun _ frameLen decoded hother => ?_
            rw [hframe] at hother
            cases hother
          next => cases h
        next frameLen hframe =>
          split at h
          next => cases h
          next frameEnd hadd =>
            rw [checkedAdd_eq_some] at hadd
            split at h
            next hcut =>
              rw [then_ok, pure_ok] at h
              obtain ⟨-, rfl⟩ := h
              refine hstop fun _ other decoded hother hle => ?_
              rw [hframe] at hother
              cases hother
              omega
            next hwhole =>
              rw [then_ok] at h
              obtain ⟨-, h⟩ := h
              split at h
              next hdecode =>
                split at h
                next =>
                  cases h
                  refine hstop fun hprevious other decoded hother _ hgood => ?_
                  rw [hframe] at hother
                  cases hother
                  rw [hprevious, hgood] at hdecode
                  cases hdecode
                next => cases h
              next decoded hdecode =>
                simp only [bind_ok, exists_unit, refuse_ok, mapError_ok, not_or, not_not, pure_ok,
                  AppendSequenceV1.new_ok] at h
                obtain ⟨⟨hstore, hdeclared⟩, sequence, hsequence, scanned, hscan, rfl⟩ := h
                obtain ⟨hlen, hsplit⟩ := front_frame (Nat.not_lt.mp hwhole)
                obtain ⟨body, tail, hrest, hframes, -⟩ := ih hscan
                refine ⟨slice rest 0 frameLen ++ body, tail, ?_, ?_, ?_⟩
                · rw [List.append_assoc, ← hrest]
                  exact hsplit
                · exact .cons hdecode hstore hdeclared (by omega) hsequence hframes
                · intro hnil
                  cases hnil

/-- No suffix that is removed starts with a whole valid frame. -/
theorem classifySuffix_front {expectedSequence : U64} {suffix : Bytes}
    {classification : RecoveryClassification}
    (h : classifySuffix identity limits expectedSequence none suffix = .ok classification) :
    frontSequence limits.decode suffix = none := by
  apply frontSequence_none
  intro frameLen decoded hframe hle hdecode
  have hlen := length_of_frameLen hframe
  simp only [slice, List.drop_zero, List.length_take] at hlen
  unfold classifySuffix at h
  rw [if_neg (by omega), then_ok, hframe] at h
  obtain ⟨-, h⟩ := h
  dsimp only at h
  rw [if_neg (by omega)] at h
  split at h
  next => cases h
  next =>
    rw [hdecode] at h
    dsimp only at h
    split at h <;> cases h

theorem frontSequence_nil : frontSequence limits.decode [] = none := by
  apply frontSequence_none
  intro frameLen decoded hframe
  have hlen := length_of_frameLen hframe
  simp [slice, journalV1FramePrefixLen] at hlen

theorem scanJournal_numbered {file : Bytes} {checkpoint : CheckpointState} {floor : U64}
    {scan : ScanResult} (h : scanJournal file identity limits checkpoint floor = .ok scan) :
    Numbered floor scan.records ↔ StartsBehind floor limits file := by
  unfold scanJournal at h
  simp only [bind_ok, exists_unit, pure_ok] at h
  obtain ⟨scanned, hscan, -, -, rfl⟩ := h
  obtain ⟨body, tail, hrest, hframes, hnone⟩ := scanFrames_sound hscan
  refine numbered_iff_startsBehind hframes hrest fun hnil hfloor => ?_
  rw [← hrest]
  exact hnone hnil (by rw [hfloor, floorSequence_zero])

theorem scanManifestRoot_numbered {file : Bytes} {checkpoint : CheckpointState} {floor : U64}
    {root : DurableCutoff} {scan : ScanResult}
    (h : scanManifestRoot file identity limits checkpoint floor root = .ok scan) :
    Numbered floor scan.records ↔ StartsBehind floor limits file := by
  unfold scanManifestRoot at h
  rw [bind_ok] at h
  obtain ⟨found, hfound, h⟩ := h
  rw [then_ok] at h
  obtain ⟨-, h⟩ := h
  obtain ⟨body, hrest, hframes, -, -, hprevious⟩ := scanRootFrames_sound hfound
  have hfront : found.records = [] → floor = 0 →
      (found.rest = [] ∨ ∃ expectedSequence classification, classifySuffix identity limits
        expectedSequence found.previous found.rest = .ok classification) →
      frontSequence limits.decode (body ++ found.rest) = none := by
    intro hnil hfloor hsuffix
    have hbody : body = [] := hframes.eq_nil.mp hnil
    rw [hbody, List.nil_append]
    rcases hsuffix with hsuffix | ⟨expectedSequence, classification, hsuffix⟩
    · rw [hsuffix]
      exact frontSequence_nil
    · rw [hprevious, hnil, hfloor] at hsuffix
      exact classifySuffix_front hsuffix
  split at h
  next hnil =>
    cases h
    exact numbered_iff_startsBehind hframes hrest fun hrecords hfloor =>
      hfront hrecords hfloor (Or.inl hnil)
  next =>
    split at h
    next => cases h
    next expectedSequence _ =>
      rw [bind_ok] at h
      obtain ⟨classification, hclass, h⟩ := h
      rw [pure_ok] at h
      subst h
      exact numbered_iff_startsBehind hframes hrest fun hrecords hfloor =>
        hfront hrecords hfloor (Or.inr ⟨expectedSequence, classification, hclass⟩)

/-- What the scan of a sealed generation has found when it succeeds. -/
theorem scanSealedFrames_sound {storeId : StoreId} {registry : SeriesRegistry} {endOffset : U64}
    {fuel count : Nat} {offset stop : U64} {previous last : Option AppendSequenceV1} {rest : Bytes}
    (h : scanSealedFrames storeId limits registry endOffset fuel count offset previous rest =
      .ok (stop, last)) :
    ∃ records body tail, rest = body ++ tail ∧
      Frames storeId limits.decode previous offset.val records body ∧
      stop.val = offset.val + body.length ∧ last = sequenceBehind previous records := by
  induction fuel generalizing count offset previous rest with
  | zero =>
    unfold scanSealedFrames at h
    split at h
    next =>
      cases h
      exact ⟨[], [], rest, rfl, .nil, rfl, rfl⟩
    next => cases h
  | succ fuel ih =>
    unfold scanSealedFrames at h
    split at h
    next =>
      cases h
      exact ⟨[], [], rest, rfl, .nil, rfl, rfl⟩
    next =>
      simp only [bind_ok, exists_unit, refuse_ok, mapError_ok, not_or, not_not, Nat.not_lt,
        AppendSequenceV1.new_ok] at h
      obtain ⟨-, -, frameLen, -, hlen, decoded, hdecode, ⟨hstore, -⟩, sequence, hsequence, h⟩ := h
      split at h
      next => cases h
      next next hadd =>
        rw [checkedAdd_eq_some] at hadd
        rw [then_ok] at h
        obtain ⟨hframe, hsplit⟩ := front_frame hlen
        obtain ⟨records, body, tail, hrest, hframes, hstop, hlast⟩ := ih h.2
        have hdeclared : decoded.declaration.storeId = storeId := by
          rw [← hstore]
          exact (storeId_of_decode hdecode).symm
        refine ⟨⟨next, decoded⟩ :: records, slice rest 0 frameLen ++ body, tail, ?_, ?_, ?_, ?_⟩
        · rw [List.append_assoc, ← hrest]
          exact hsplit
        · exact .cons hdecode hstore hdeclared (by omega) hsequence hframes
        · rw [List.length_append]
          omega
        · rw [sequenceBehind, hsequence, floorSequence_value]
          exact hlast

theorem validateSealedJournal_numbered {d : StoreDirectory} {name : Artifact}
    {expected : SealedGeneration} {storeId : StoreId} {registry : SeriesRegistry} {file : Bytes}
    (hfile : d.lookup name = some file)
    (h : validateSealedJournal d name expected storeId limits registry = .ok ()) :
    HoldsSealed storeId limits expected file ↔
      StartsBehind expected.sequenceFloor limits file := by
  unfold validateSealedJournal at h
  rw [hfile] at h
  simp only [bind_ok, exists_unit, refuse_ok, mapError_ok, not_or, not_not, Nat.not_lt,
    decodeHeader_ok, Prod.exists] at h
  obtain ⟨hlen, -, headerStore, hheader, hstore, stop, last, hscan, hstop, hlast, -⟩ := h
  obtain ⟨records, body, tail, hrest, hframes, hend, hbehind⟩ := scanSealedFrames_sound hscan
  have h28 : (Fin.ofNat (2 ^ 64) journalV1HeaderLen).val = journalV1HeaderLen := rfl
  rw [h28] at hframes hend
  have hsplit : file = encodeHeader storeId ++ (body ++ tail) := by
    rw [← hstore, ← hheader, ← hrest, slice, List.drop_zero, List.take_append_drop]
  rw [hbehind, sequenceBehind_eq] at hlast
  obtain ⟨sequence, hsequence, hcutoff⟩ := Option.map_eq_some_iff.mp hlast
  have hcut : lastSequence expected.sequenceFloor records = expected.sequenceCutoff := by
    rw [floorSequence_eq_some.mp hsequence, hcutoff]
  -- the cutoff is positive, so something lies between the floor zero and it
  have hpositive : expected.sequenceCutoff ≠ 0 := by
    intro hzero
    have hpos := sequence.positive
    rw [hcutoff, hzero] at hpos
    exact absurd hpos (by decide)
  have hnonempty : ∀ {others : List RecoveredAdmissionV1},
      lastSequence expected.sequenceFloor others = expected.sequenceCutoff →
      others = [] → expected.sequenceFloor ≠ 0 := by
    intro others hothers hnil hfloor
    rw [hnil, hfloor] at hothers
    exact hpositive hothers.symm
  constructor
  · intro hholds
    obtain ⟨others, body', tail', hother, hframes', -, -, hnumbered, hcut'⟩ := hholds
    have hdrop : file.drop journalV1HeaderLen = body' ++ tail' := by
      rw [hother, ← length_encodeHeader storeId, List.drop_left]
    exact (numbered_iff_startsBehind hframes' hdrop
      fun hnil hfloor => absurd hfloor (hnonempty hcut' hnil)).mp hnumbered
  · intro hstarts
    have hnumbered := (numbered_iff_startsBehind hframes hrest
      fun hnil hfloor => absurd hfloor (hnonempty hcut hnil)).mpr hstarts
    refine ⟨records, body, tail, hsplit, hframes, ?_, ?_, hnumbered, hcut⟩
    · rw [← hstop]
      exact hend
    · rw [← hstop, ← hlen, hend, hsplit, List.length_append, List.length_append,
        length_encodeHeader]
      omega

/-- The artifact is the header and the frames behind the floor up to the cutoff, and nothing
else. -/
def HoldsWhole (storeId : StoreId) (limits : ActiveJournalLimits) (expected : SealedGeneration)
    (file : Bytes) : Prop :=
  ∃ records body, file = encodeHeader storeId ++ body ∧
    Frames storeId limits.decode (floorSequence expected.sequenceFloor) journalV1HeaderLen records
      body ∧ expected.endOffset.val = journalV1HeaderLen + body.length ∧
    Numbered expected.sequenceFloor records ∧
    lastSequence expected.sequenceFloor records = expected.sequenceCutoff

/-- A generation that ends with its artifact has no tail. -/
theorem holdsSealed_whole {storeId : StoreId} {expected : SealedGeneration} {file : Bytes}
    (hends : expected.artifactLength = expected.endOffset) :
    HoldsSealed storeId limits expected file ↔ HoldsWhole storeId limits expected file := by
  constructor
  · rintro ⟨records, body, tail, hsplit, hframes, hend, hlength, hnumbered, hcut⟩
    rw [hends] at hlength
    have htail : tail = [] := List.length_eq_zero_iff.mp (by omega)
    rw [htail, List.append_nil] at hsplit
    exact ⟨records, body, hsplit, hframes, hend, hnumbered, hcut⟩
  · rintro ⟨records, body, hsplit, hframes, hend, hnumbered, hcut⟩
    refine ⟨records, body, [], ?_, hframes, hend, ?_, hnumbered, hcut⟩
    · rw [List.append_nil]
      exact hsplit
    · rw [hends]
      rfl

/-- The entry of an intent ends with its artifact, so a rotation seals a generation whose file is
the frames behind the floor exactly when the file starts behind it. -/
theorem prepareSealedGeneration_numbered {d : StoreDirectory} {intent : RotationIntent}
    {floor : U64} {registry : SeriesRegistry} {entry : SealedGeneration} {file : Bytes}
    (hfile : d.lookup (.activeJournal intent.sourceGeneration) = some file)
    (h : prepareSealedGeneration d intent floor limits registry = .ok entry) :
    HoldsWhole intent.storeId limits entry file ↔ StartsBehind floor limits file := by
  unfold prepareSealedGeneration expectedSealedEntry at h
  simp only [bind_ok, exists_unit, refuse_ok, pure_ok] at h
  obtain ⟨-, _, ⟨checksum, -, rfl⟩, hvalid, rfl⟩ := h
  rw [← holdsSealed_whole rfl]
  exact validateSealedJournal_numbered hfile hvalid

/-- A scan that accepts a journal has found the sequences behind the floor without a hole
exactly when the floor is positive or the frame behind the header carries the sequence one. The
same holds of a sealed generation and the frames up to its cutoff. -/
theorem scans_numbered_iff_startsBehind (limits : ActiveJournalLimits) (file : Bytes)
    (floor : U64) :
    (∀ identity checkpoint scan, scanJournal file identity limits checkpoint floor = .ok scan →
      (Numbered floor scan.records ↔ StartsBehind floor limits file)) ∧
    (∀ identity checkpoint root scan,
      scanManifestRoot file identity limits checkpoint floor root = .ok scan →
      (Numbered floor scan.records ↔ StartsBehind floor limits file)) ∧
    (∀ (d : StoreDirectory) name expected storeId registry, d.lookup name = some file →
      expected.sequenceFloor = floor →
      validateSealedJournal d name expected storeId limits registry = .ok () →
      (HoldsSealed storeId limits expected file ↔ StartsBehind floor limits file)) := by
  refine ⟨?_, ?_, ?_⟩
  · intro identity checkpoint scan h
    exact scanJournal_numbered h
  · intro identity checkpoint root scan h
    exact scanManifestRoot_numbered h
  · intro d name expected storeId registry hfile hfloor h
    rw [← hfloor]
    exact validateSealedJournal_numbered hfile h

end Scans

section Samples

/-- A journal whose only frame carries `sequence`. -/
def sampleJournal (sequence : U64) : Bytes :=
  let frame := encodeDecodedAdmissionFrameV1 { sampleDecoded with appendSequence := sequence }
  encodeHeader (sampleIdentity 1) ++ frame.toOption.getD []

def sampleCheckpoint (sequence : U64) : CheckpointState :=
  ⟨2, sequence, Fin.ofNat _ (sampleJournal sequence).length⟩

def sampleSealed (sequence : U64) : SealedGeneration :=
  let length := Fin.ofNat _ (sampleJournal sequence).length
  ⟨1, 0, sequence, length, 1, length, crc32c (sampleJournal sequence)⟩

def sampleSealedDirectory (sequence : U64) : StoreDirectory :=
  (∅ : StoreDirectory).insert (.sealedJournal 1) (sampleJournal sequence)

/-- Every scan accepts a journal behind the floor zero whose only frame carries the sequence
two, so the sequence one is missing. -/
theorem scans_accept_missing_first :
    (∃ scan, scanJournal (sampleJournal 2) ⟨sampleIdentity 1, 1⟩ sampleJournalLimits
        (sampleCheckpoint 2) 0 = .ok scan ∧ ¬Numbered 0 scan.records) ∧
      (∃ scan, scanManifestRoot (sampleJournal 2) ⟨sampleIdentity 1, 1⟩ sampleJournalLimits
        (sampleCheckpoint 2) 0 (durableCutoffFromState ⟨sampleIdentity 1, 1⟩ (sampleCheckpoint 2)) =
          .ok scan ∧ ¬Numbered 0 scan.records) ∧
      validateSealedJournal (sampleSealedDirectory 2) (.sealedJournal 1) (sampleSealed 2)
        (sampleIdentity 1) sampleJournalLimits sampleRegistry = .ok () ∧
      ¬HoldsSealed (sampleIdentity 1) sampleJournalLimits (sampleSealed 2) (sampleJournal 2) := by
  -- one evaluation for all scans, which share the encoded frame
  obtain ⟨hfront, hsome, hroot, hsealed⟩ : frontSequence sampleJournalLimits.decode
        ((sampleJournal 2).drop journalV1HeaderLen) = some 2 ∧
      (scanJournal (sampleJournal 2) ⟨sampleIdentity 1, 1⟩ sampleJournalLimits
        (sampleCheckpoint 2) 0).toOption.isSome = true ∧
      (scanManifestRoot (sampleJournal 2) ⟨sampleIdentity 1, 1⟩ sampleJournalLimits
        (sampleCheckpoint 2) 0
        (durableCutoffFromState ⟨sampleIdentity 1, 1⟩ (sampleCheckpoint 2))).toOption.isSome =
          true ∧
      validateSealedJournal (sampleSealedDirectory 2) (.sealedJournal 1) (sampleSealed 2)
        (sampleIdentity 1) sampleJournalLimits sampleRegistry = .ok () := by
    decide +kernel
  have hstarts : ¬StartsBehind 0 sampleJournalLimits (sampleJournal 2) := by
    intro hstarts
    rcases hstarts with hfloor | hone
    · exact hfloor rfl
    · exact absurd (hone 2 hfront) (by decide)
  obtain ⟨scan, hscan⟩ := exists_ok hsome
  obtain ⟨found, hfound⟩ := exists_ok hroot
  have hfile : (sampleSealedDirectory 2).lookup (.sealedJournal 1) = some (sampleJournal 2) :=
    Finmap.lookup_insert _
  refine ⟨⟨scan, hscan, ?_⟩, ⟨found, hfound, ?_⟩, hsealed, ?_⟩
  · rw [scanJournal_numbered hscan]
    exact hstarts
  · rw [scanManifestRoot_numbered hfound]
    exact hstarts
  · rw [validateSealedJournal_numbered hfile hsealed]
    exact hstarts

theorem scans_numbered_iff_startsBehind_sample :
    ∃ scan, scanJournal (sampleJournal 1) ⟨sampleIdentity 1, 1⟩ sampleJournalLimits
      (sampleCheckpoint 1) 0 = .ok scan ∧ scan.records ≠ [] ∧ Numbered 0 scan.records ∧
      validateSealedJournal (sampleSealedDirectory 1) (.sealedJournal 1) (sampleSealed 1)
        (sampleIdentity 1) sampleJournalLimits sampleRegistry = .ok () ∧
      HoldsSealed (sampleIdentity 1) sampleJournalLimits (sampleSealed 1) (sampleJournal 1) := by
  obtain ⟨hfront, hsome, hsealed⟩ : frontSequence sampleJournalLimits.decode
        ((sampleJournal 1).drop journalV1HeaderLen) = some 1 ∧
      ((scanJournal (sampleJournal 1) ⟨sampleIdentity 1, 1⟩ sampleJournalLimits
        (sampleCheckpoint 1) 0).toOption.map fun scan => scan.records.length) = some 1 ∧
      validateSealedJournal (sampleSealedDirectory 1) (.sealedJournal 1) (sampleSealed 1)
        (sampleIdentity 1) sampleJournalLimits sampleRegistry = .ok () := by
    decide +kernel
  have hstarts : StartsBehind 0 sampleJournalLimits (sampleJournal 1) := by
    refine Or.inr fun sequence hsequence => ?_
    rw [hfront, Option.mem_some_iff] at hsequence
    exact hsequence.symm
  have hfile : (sampleSealedDirectory 1).lookup (.sealedJournal 1) = some (sampleJournal 1) :=
    Finmap.lookup_insert _
  obtain ⟨hjournal, -, hgeneration⟩ :=
    scans_numbered_iff_startsBehind sampleJournalLimits (sampleJournal 1) 0
  cases hscan : scanJournal (sampleJournal 1) ⟨sampleIdentity 1, 1⟩ sampleJournalLimits
      (sampleCheckpoint 1) 0 with
  | error e =>
    rw [hscan] at hsome
    cases hsome
  | ok scan =>
    rw [hscan] at hsome
    refine ⟨scan, rfl, ?_, (hjournal _ _ scan hscan).mpr hstarts, hsealed,
      (hgeneration _ _ _ _ _ hfile rfl hsealed).mpr hstarts⟩
    intro hnil
    simp [Except.toOption, hnil] at hsome

end Samples

end Historian
