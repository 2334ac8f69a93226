import Historian.JournalFrames

namespace Historian

open Wire Checks Files

/-- The checkpoint file of a generation that must be there and whole. -/
def readCheckpointFile (identity : JournalIdentity) (sequenceFloor : U64) (journalLen : Nat)
    (d : StoreDirectory) : Except ManifestRootOpenError (Option CheckpointState × Bytes) := do
  let file ← readFile d (.activeCheckpoint identity.generation)
  refuse (file.length ≠ checkpointFileLen) (.active .invalidLayout)
  let state ← (readCheckpoint file identity sequenceFloor journalLen).mapError .active
  pure (state, file)

/-- What a strict open at a root reads, without a change to the directory. -/
def readRoot (identity : JournalIdentity) (sequenceFloor : U64) (limits : ActiveJournalLimits)
    (root : DurableCutoff) (d : StoreDirectory) :
    Except ManifestRootOpenError (ActiveJournal × Option ActiveRecoveryPlan) := do
  let journal ← readFile d (.activeJournal identity.generation)
  refuse (journal.length < journalV1HeaderLen ∨ limits.activeBytes < journal.length)
    (.active .invalidLayout)
  let headerStore ← (decodeHeader (slice journal 0 journalV1HeaderLen)).mapError
    fun error => ManifestRootOpenError.active (.journal error)
  refuse (headerStore ≠ identity.storeId) (.active .storeMismatch)
  let (found, _) ← readCheckpointFile identity sequenceFloor journal.length d
  match found with
  | none => .error (.active .invalidLayout)
  | some state => do
    refuse (root ≠ durableCutoffFromState identity state) .rootMismatch
    let scan ← (scanManifestRoot journal identity limits state sequenceFloor root).mapError .active
    refuse (scan.truncateTo ≠ none ∨ scan.validEnd ≠ state.endOffset) (.active .invalidLayout)
    pure (⟨identity, limits, state, scan.validEnd, scan.records, .writable⟩, scan.recoveryPlan)

theorem openCheckpoint_strict (identity : JournalIdentity) (sequenceFloor : U64)
    (journalLen : Nat) : openCheckpoint identity sequenceFloor .strict journalLen =
      look (readCheckpointFile identity sequenceFloor journalLen) := by
  funext d
  unfold openCheckpoint
  rw [run_look_bind]
  unfold look readCheckpointFile readFile
  dsimp only
  cases d.lookup (.activeCheckpoint identity.generation) with
  | none =>
    dsimp only
    rw [if_neg (by simp)]
    rfl
  | some file =>
    dsimp only
    rw [if_neg (by simp)]
    exact reads_ensure_bind fun _ _ => reads_ensure_bind fun _ _ => rfl

/-- A strict open at a root only reads. -/
theorem openExisting_root (identity : JournalIdentity) (sequenceFloor : U64)
    (limits : ActiveJournalLimits) (root : DurableCutoff) :
    ActiveJournal.openExisting identity sequenceFloor limits .strict (some root) =
      look (readRoot identity sequenceFloor limits root) := by
  funext d
  unfold ActiveJournal.openExisting
  apply reads_look_bind
  intro journal _
  apply reads_ensure_bind
  intro _ _
  rw [run_ensure_bind, show refuse (RecoveryPolicy.strict = .manifestGenesis ∧
    journal.length ≠ journalV1HeaderLen) (ManifestRootOpenError.active .invalidLayout) = .ok ()
    from rfl]
  apply reads_ensure_bind
  intro headerStore _
  apply reads_ensure_bind
  intro _ _
  rw [openCheckpoint_strict]
  apply reads_look_bind
  intro checkpoint _
  obtain ⟨found, file⟩ := checkpoint
  dsimp only
  rw [run_ensure_bind, show refuse (RecoveryPolicy.strict = .manifestGenesis ∧
    found ≠ some (genesisCheckpointState sequenceFloor))
    (ManifestRootOpenError.active .invalidLayout) = .ok () from by simp [refuse]]
  cases found with
  | none => rfl
  | some state =>
    rw [run_ensure_bind, show refuse (some state = none ∧ (some root ≠ none ∨
      journal.length ≠ journalV1HeaderLen)) (ManifestRootOpenError.active .invalidLayout) = .ok ()
      from by simp [refuse]]
    have hroot : refuse (∃ expected ∈ some root, expected ≠ durableCutoffFromState identity state)
        ManifestRootOpenError.rootMismatch =
        refuse (root ≠ durableCutoffFromState identity state) .rootMismatch :=
      refuse_congr (by simp)
    dsimp only
    rw [run_pure_bind, hroot]
    apply reads_ensure_bind
    intro _ _
    apply reads_ensure_bind
    intro scan _
    have hstrict : refuse (RecoveryPolicy.strict = .strict ∧ (scan.truncateTo ≠ none ∨
        scan.validEnd ≠ state.endOffset)) (ManifestRootOpenError.active .invalidLayout) =
        refuse (scan.truncateTo ≠ none ∨ scan.validEnd ≠ state.endOffset)
          (.active .invalidLayout) := refuse_congr (by simp)
    rw [hstrict]
    apply reads_ensure_bind
    intro _ _
    rw [if_neg (by simp)]
    rfl

theorem length_encodeHeader (storeId : StoreId) :
    (encodeHeader storeId).length = journalV1HeaderLen := by
  simp [encodeHeader, journalV1HeaderMagic, journalV1HeaderLen, storeId.length_eq]

/-- A journal header is the only spelling of its store. -/
theorem decodeHeader_ok {bytes : Bytes} {storeId : StoreId} :
    decodeHeader bytes = .ok storeId ↔ bytes = encodeHeader storeId := by
  have h28 : journalV1HeaderLen = 28 := rfl
  unfold decodeHeader
  simp only [bind_ok, exists_unit, refuse_ok, mapError_ok, not_not, Nat.not_lt,
    Identity.fromBytes_ok]
  constructor
  · intro h
    obtain ⟨hlong, hshort, hmagic, hversion, hlength, hstore⟩ := h
    calc bytes
        = slice bytes 0 (8 + 2 + 2 + 16) := (slice_all (by omega)).symm
      _ = slice bytes 0 8 ++ slice bytes 8 2 ++ slice bytes 10 2 ++ slice bytes 12 16 := by
        simp only [slice_add, Nat.zero_add]
      _ = encodeHeader storeId := by
        rw [hmagic, slice_eq_toBE (by omega) hversion, slice_eq_toBE (by omega) hlength, hstore]
        simp [encodeHeader]
  · intro h
    subst h
    have hlen := length_encodeHeader storeId
    have hcut : cut (encodeHeader storeId) 0 [8, 2, 2, 16] = [journalV1HeaderMagic,
        toBE 2 journalV1Version, toBE 2 journalV1HeaderLen, storeId.bytes] := by
      have h := cut_flatten [journalV1HeaderMagic, toBE 2 journalV1Version,
        toBE 2 journalV1HeaderLen, storeId.bytes]
      simp only [List.map_cons, List.map_nil, length_toBE, storeId.length_eq] at h
      exact h
    simp only [cut, Nat.reduceAdd, List.cons.injEq, and_true] at hcut
    obtain ⟨hmagic, hversion, hlength, hstore⟩ := hcut
    exact ⟨by omega, by omega, hmagic, u16At_of_slice (by decide) hversion,
      u16At_of_slice (by decide) hlength, hstore⟩

/-- A journal file that holds `records` in its frames up to a root and `suffix` behind it. -/
structure JournalFile (identity : JournalIdentity) (sequenceFloor : U64)
    (limits : ActiveJournalLimits) (root : DurableCutoff) (records : List RecoveredAdmissionV1)
    (suffix file : Bytes) : Prop where
  holds : ∃ body, file = encodeHeader identity.storeId ++ (body ++ suffix) ∧
    Frames identity.storeId limits.decode (floorSequence sequenceFloor) journalV1HeaderLen records
      body ∧ root.endOffset.val = journalV1HeaderLen + body.length
  last : lastSequence sequenceFloor records = root.appendSequence
  count : records.length ≤ limits.recordLimit
  bound : file.length ≤ limits.activeBytes

/-- The suffix of a journal leads to a recovery, or there is none. -/
def SuffixPlan (identity : JournalIdentity) (limits : ActiveJournalLimits) (root : DurableCutoff)
    (suffix file : Bytes) (plan : Option ActiveRecoveryPlan) : Prop :=
  (suffix = [] ∧ plan = none) ∨
    (suffix ≠ [] ∧ ∃ expectedSequence classification,
      checkedAdd root.appendSequence 1 = some expectedSequence ∧
      classifySuffix identity limits expectedSequence (floorSequence root.appendSequence) suffix =
        .ok classification ∧
      plan = some ⟨identity, root, Fin.ofNat _ file.length, classification⟩)

theorem scanManifestRoot_ok {file : Bytes} {identity : JournalIdentity}
    {limits : ActiveJournalLimits} {state : CheckpointState} {sequenceFloor : U64}
    {root : DurableCutoff} {scan : ScanResult}
    (hfile : slice file 0 journalV1HeaderLen = encodeHeader identity.storeId)
    (hbound : file.length ≤ limits.activeBytes)
    (hroot : root = durableCutoffFromState identity state) :
    scanManifestRoot file identity limits state sequenceFloor root = .ok scan ↔
      ∃ suffix, JournalFile identity sequenceFloor limits root scan.records suffix file ∧
        scan.validEnd = root.endOffset ∧ scan.truncateTo = none ∧
        SuffixPlan identity limits root suffix file scan.recoveryPlan := by
  have hsplit : file = encodeHeader identity.storeId ++ file.drop journalV1HeaderLen := by
    rw [← hfile, slice, List.drop_zero, List.take_append_drop]
  have hstart : (Fin.ofNat (2 ^ 64) journalV1HeaderLen).val = journalV1HeaderLen := rfl
  have hstate : state.appendSequence = root.appendSequence ∧
      state.slotGeneration = root.checkpointGeneration := by
    rw [hroot]
    exact ⟨rfl, rfl⟩
  unfold scanManifestRoot
  rw [bind_ok]
  constructor
  · intro h
    obtain ⟨found, hfound, h⟩ := h
    obtain ⟨body, hrest, hframes, hoffset, hcount, hprevious⟩ := scanRootFrames_sound hfound
    rw [then_ok, refuse_ok] at h
    simp only [not_or, not_not, Nat.not_lt] at h
    obtain ⟨⟨hend, hsequence, hrootSequence, -, hlen⟩, h⟩ := h
    rw [hstart] at hframes hoffset
    have hholds : JournalFile identity sequenceFloor limits root found.records found.rest file := by
      refine ⟨⟨body, ?_, hframes, ?_⟩, hrootSequence.symm, ?_, hbound⟩
      · rw [← hrest]
        exact hsplit
      · rw [← hend]
        exact hoffset
      · rcases hcount with hnil | hcount
        · rw [hnil]
          exact Nat.zero_le _
        · omega
    split at h
    next hnil =>
      cases h
      exact ⟨found.rest, hholds, hend, rfl, Or.inl ⟨hnil, rfl⟩⟩
    next hne =>
      split at h
      next => cases h
      next expectedSequence hexpected =>
        rw [bind_ok] at h
        obtain ⟨classification, hclass, h⟩ := h
        rw [pure_ok] at h
        subst h
        refine ⟨found.rest, hholds, hend, rfl,
          Or.inr ⟨hne, expectedSequence, classification, ?_, ?_,
          rfl⟩⟩
        · rw [hrootSequence]
          exact hexpected
        · rw [hrootSequence, ← sequenceBehind_eq, ← hprevious]
          exact hclass
  · intro h
    obtain ⟨suffix, ⟨⟨body, hbody, hframes, hend⟩, hlast, hcount, -⟩, hvalid, htruncate, hplan⟩ := h
    have hdrop : file.drop journalV1HeaderLen = body ++ suffix := by
      rw [hbody, ← length_encodeHeader identity.storeId, List.drop_left]
    have hfuel : scan.records.length ≤ file.length := by
      have hle := hframes.length_le
      rw [hbody, List.length_append, List.length_append]
      omega
    have hscan := scanRootFrames_complete hframes suffix hstart hend
      (by omega : 0 + scan.records.length ≤ limits.recordLimit) hfuel
    rw [hdrop]
    refine ⟨_, hscan, ?_⟩
    dsimp only
    rw [then_ok, refuse_ok, hlast, sequenceBehind_eq, hlast]
    refine ⟨?_, ?_⟩
    · simp only [not_or, not_not, Nat.not_lt]
      refine ⟨trivial, hstate.1, trivial, hstate.2.symm, ?_⟩
      rw [hbody, hend, List.length_append, List.length_append, length_encodeHeader]
      omega
    · obtain ⟨records, validEnd, truncateTo, recoveryPlan⟩ := scan
      dsimp only at hvalid htruncate hplan
      subst hvalid htruncate
      rcases hplan with ⟨hnil, rfl⟩ | ⟨hne, expectedSequence, classification, hadd, hclass, rfl⟩
      · rw [if_pos hnil]
      · rw [if_neg hne, hadd]
        dsimp only
        rw [bind_ok]
        exact ⟨classification, hclass, rfl⟩

/-- What a store finds at a root: the files of the generation, whole up to the root. -/
theorem readRoot_ok {identity : JournalIdentity} {sequenceFloor : U64}
    {limits : ActiveJournalLimits} {root : DurableCutoff} {d : StoreDirectory}
    {journal : ActiveJournal} {plan : Option ActiveRecoveryPlan} :
    readRoot identity sequenceFloor limits root d = .ok (journal, plan) ↔
      ∃ file checkpoint state suffix,
        d.lookup (.activeJournal identity.generation) = some file ∧
        d.lookup (.activeCheckpoint identity.generation) = some checkpoint ∧
        checkpoint.length = checkpointFileLen ∧
        readCheckpoint checkpoint identity sequenceFloor file.length = .ok (some state) ∧
        root = durableCutoffFromState identity state ∧
        JournalFile identity sequenceFloor limits root journal.records suffix file ∧
        journal = ⟨identity, limits, state, root.endOffset, journal.records, .writable⟩ ∧
        SuffixPlan identity limits root suffix file plan := by
  have hread : ∀ {name : Artifact} {file : Bytes},
      readFile d name = .ok file ↔ d.lookup name = some file := by
    intro name file
    unfold readFile
    cases d.lookup name <;> simp
  unfold readRoot readCheckpointFile
  simp only [bind_ok, exists_unit, refuse_ok, mapError_ok, hread, decodeHeader_ok, pure_ok,
    Prod.exists, Prod.mk.injEq, not_or, not_not, Nat.not_lt]
  constructor
  · intro h
    obtain ⟨file, hfile, ⟨-, hbound⟩, _, hheader, rfl, _, _, ⟨checkpoint, hcheckpoint, hlen,
      found, hstate, rfl, rfl⟩, h⟩ := h
    cases found with
    | none => simp at h
    | some state =>
      simp only [bind_ok, exists_unit, refuse_ok, mapError_ok, pure_ok, not_or, not_not,
        Prod.mk.injEq] at h
      obtain ⟨hroot, scan, hscan, ⟨-, hend⟩, rfl, rfl⟩ := h
      obtain ⟨suffix, hholds, hvalid, -, hplan⟩ :=
        (scanManifestRoot_ok hheader hbound hroot).mp hscan
      refine ⟨file, checkpoint, state, suffix, hfile, hcheckpoint, hlen, hstate, hroot, hholds, ?_,
        hplan⟩
      rw [hvalid]
  · intro h
    obtain ⟨file, checkpoint, state, suffix, hfile, hcheckpoint, hlen, hstate, hroot, hholds,
      hjournal, hplan⟩ := h
    obtain ⟨body, hbody, -, -⟩ := hholds.holds
    have hheader : slice file 0 journalV1HeaderLen = encodeHeader identity.storeId := by
      rw [hbody]
      exact slice_head (length_encodeHeader _)
    have hlong : journalV1HeaderLen ≤ file.length := by
      rw [hbody, List.length_append, length_encodeHeader]
      omega
    have hscan : scanManifestRoot file identity limits state sequenceFloor root =
        .ok ⟨journal.records, root.endOffset, none, plan⟩ :=
      (scanManifestRoot_ok hheader hholds.bound hroot).mpr ⟨suffix, hholds, rfl, rfl, hplan⟩
    refine ⟨file, hfile, ⟨hlong, hholds.bound⟩, _, hheader, rfl, some state, checkpoint,
      ⟨_, hcheckpoint, hlen, _, hstate, rfl, rfl⟩, ?_⟩
    simp only [bind_ok, exists_unit, refuse_ok, mapError_ok, pure_ok, not_or, not_not,
      Prod.mk.injEq]
    refine ⟨hroot, _, hscan, ⟨rfl, ?_⟩, hjournal.symm, rfl⟩
    rw [hroot]
    rfl

end Historian
