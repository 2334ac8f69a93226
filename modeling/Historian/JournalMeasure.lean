import Historian.WireBound
import Historian.IngressSizes

namespace Historian

open Wire Checks

section Encoders

theorem modeFree_string (value : Text) : ModeFree (encodeString value) := by
  unfold encodeString
  split
  next => exact (ModeFree.put _).seq (ModeFree.put _)
  next => exact ModeFree.throw _

theorem modeFree_count (n : Nat) : ModeFree (encodeCount n) := by
  unfold encodeCount
  split
  next => exact ModeFree.put _
  next => exact ModeFree.throw _

theorem modeFree_identity {family : IdentityFamily} (id : Identity family) :
    ModeFree (encodeIdentity id) :=
  ModeFree.put _

theorem modeFree_optional {α : Type} {enc : α → Enc Unit} (h : ∀ x, ModeFree (enc x))
    (o : Option α) : ModeFree (encodeOptional enc o) :=
  ModeFree.option (fun _ => ModeFree.put _) h o

theorem modeFree_counted {α : Type} {enc : α → Enc Unit} (h : ∀ x, ModeFree (enc x))
    (items : List α) : ModeFree (encodeCounted enc items) :=
  (modeFree_count _).seq (ModeFree.forM h items)

theorem modeFree_timestamp (timestamp : Timestamp) : ModeFree (encodeTimestamp timestamp) :=
  (ModeFree.put _).seq (ModeFree.put _)

theorem modeFree_timeInterval (interval : TimeInterval) : ModeFree (encodeTimeInterval interval) :=
  (modeFree_timestamp _).seq (modeFree_timestamp _)

theorem modeFree_content (content : ContentIdentity) : ModeFree (encodeContent content) :=
  (modeFree_string _).seq ((ModeFree.put _).seq (ModeFree.put _))

theorem modeFree_artifact (artifact : ArtifactReference) : ModeFree (encodeArtifact artifact) :=
  (modeFree_identity _).seq (modeFree_content _)

theorem modeFree_idempotency (evidence : Option SourceIdempotency) :
    ModeFree (encodeOptionalIdempotency evidence) :=
  modeFree_optional (fun _ => (modeFree_string _).seq (modeFree_content _)) evidence

theorem modeFree_binding (binding : SeriesBinding) : ModeFree (encodeBinding binding) :=
  (modeFree_string _).seq ((modeFree_optional (fun _ => modeFree_string _) _).seq
    (modeFree_string _))

theorem modeFree_quantity (quantity : QuantityEvidence) : ModeFree (encodeQuantity quantity) := by
  cases quantity with
  | absent => exact ModeFree.put _
  | resolved reference => exact (ModeFree.put _).seq (modeFree_string _)
  | unresolved reference => exact (ModeFree.put _).seq (modeFree_string _)

theorem modeFree_unit (unit : UnitEvidence) : ModeFree (encodeUnit unit) := by
  cases unit with
  | absent => exact ModeFree.put _
  | resolved reference => exact (ModeFree.put _).seq (modeFree_string _)
  | unresolved reference => exact (ModeFree.put _).seq (modeFree_string _)

theorem modeFree_declarationPayload (payload : SeriesDeclarationPayload) :
    ModeFree (encodeDeclarationPayload payload) :=
  (modeFree_identity _).seq ((ModeFree.put _).seq ((ModeFree.put _).seq
    ((modeFree_quantity _).seq ((modeFree_unit _).seq
    (modeFree_optional (fun _ => modeFree_string _) _)))))

theorem modeFree_declaration (declaration : SeriesDeclaration) :
    ModeFree (encodeDeclaration declaration) :=
  (modeFree_identity _).seq ((modeFree_identity _).seq ((ModeFree.put _).seq
    ((modeFree_optional (fun _ => ModeFree.put _) _).seq ((modeFree_binding _).seq
    ((modeFree_declarationPayload _).seq
    ((modeFree_timestamp _).seq (modeFree_optional modeFree_artifact _)))))))

theorem modeFree_exactValue (value : ExactValue) : ModeFree (encodeExactValue value) := by
  cases value with
  | real value => exact (ModeFree.put _).seq (ModeFree.put _)
  | signed value => exact (ModeFree.put _).seq (ModeFree.put _)
  | unsigned value => exact (ModeFree.put _).seq (ModeFree.put _)
  | boolean value => exact (ModeFree.put _).seq (ModeFree.put _)
  | state value => exact (ModeFree.put _).seq ((modeFree_string _).seq (modeFree_string _))
  | text value => exact (ModeFree.put _).seq (modeFree_string _)
  | artifact value => exact (ModeFree.put _).seq (modeFree_artifact _)
  | unavailable reason =>
    exact (ModeFree.put _).seq (modeFree_optional (fun _ => modeFree_string _) _)

theorem modeFree_observation (observation : Observation) :
    ModeFree (encodeObservation observation) := by
  have htimes : ModeFree (encodeObservationTimes observation.times) :=
    (modeFree_optional modeFree_timestamp _).seq
      ((modeFree_timestamp _).seq (modeFree_timestamp _))
  have hquality : ModeFree (encodeQuality observation.quality) :=
    (ModeFree.put _).seq (ModeFree.put _)
  have hstatus : ModeFree (encodeNativeStatus observation.nativeStatus) :=
    (modeFree_count _).seq (ModeFree.forM (fun _ => modeFree_string _) _)
  have hposition : ModeFree (encodeOptionalPosition observation.producerPosition) :=
    modeFree_optional (fun _ => (ModeFree.put _).seq (ModeFree.put _)) _
  exact (modeFree_identity _).seq ((modeFree_exactValue _).seq (htimes.seq (hquality.seq
    (hstatus.seq (hposition.seq (modeFree_optional modeFree_timeInterval _))))))

theorem modeFree_gap (gap : Gap) : ModeFree (encodeGap gap) :=
  (ModeFree.put _).seq ((ModeFree.put _).seq ((ModeFree.put _).seq (ModeFree.put _)))

theorem modeFree_sourceGap (gap : SourceGapEvidence) : ModeFree (encodeSourceGap gap) :=
  (ModeFree.put _).seq ((ModeFree.put _).seq ((ModeFree.put _).seq (ModeFree.put _)))

theorem modeFree_envelope (envelope : CollectionEnvelope) :
    ModeFree (encodeEnvelope envelope) := by
  have hseries : ModeFree (encodeSeriesMetadata envelope.series) :=
    (modeFree_identity _).seq ((modeFree_identity _).seq (ModeFree.put _))
  unfold encodeEnvelope
  refine hseries.seq ?_
  split
  next =>
    exact (ModeFree.put _).seq ((modeFree_counted modeFree_observation _).seq
      (modeFree_counted modeFree_gap _))
  next =>
    refine (ModeFree.put _).seq ?_
    split
    next => exact modeFree_timeInterval _
    next => exact ModeFree.throw _

theorem modeFree_retry (retry : RetryQualification) : ModeFree (encodeRetry retry) :=
  (modeFree_identity _).seq ((modeFree_identity _).seq ((modeFree_string _).seq
    (modeFree_content _)))

theorem modeFree_batch (batch : SourceBatchMetadata) : ModeFree (encodeBatch batch) :=
  (modeFree_string _).seq ((ModeFree.put _).seq (ModeFree.put _))

theorem modeFree_lifecycle (lifecycle : CaptureLifecycle) :
    ModeFree (encodeLifecycle lifecycle) := by
  have hsystem : ModeFree (encodeSystem lifecycle.system) :=
    (modeFree_identity _).seq ((modeFree_string _).seq (modeFree_string _))
  have hendpoint : ModeFree (encodeEndpoint lifecycle.endpoint) :=
    (modeFree_identity _).seq ((modeFree_identity _).seq (modeFree_string _))
  have hrun : ModeFree (encodeRun lifecycle.run) :=
    (modeFree_identity _).seq ((modeFree_identity _).seq ((modeFree_timestamp _).seq
      (modeFree_optional modeFree_timestamp _)))
  have hsnapshot : ModeFree (encodeSnapshot lifecycle.snapshot) :=
    (modeFree_identity _).seq ((modeFree_identity _).seq (modeFree_artifact _))
  exact hsystem.seq (hendpoint.seq (hrun.seq hsnapshot))

theorem modeFree_lineage (lineage : SourceObservationLineage) :
    ModeFree (encodeLineage lineage) := by
  have hobservation : ModeFree (encodeSourceObservation lineage.observation) :=
    (modeFree_identity _).seq ((modeFree_optional modeFree_artifact _).seq
      ((ModeFree.put _).seq (modeFree_idempotency _)))
  have hraw : ModeFree (encodeRawRecord lineage.raw) :=
    (modeFree_identity _).seq ((modeFree_identity _).seq ((modeFree_artifact _).seq
      (modeFree_idempotency _)))
  have hnormalized : ModeFree (encodeNormalizedRecord lineage.normalized) :=
    (modeFree_identity _).seq ((modeFree_identity _).seq ((modeFree_content _).seq
      (modeFree_identity _)))
  exact (ModeFree.put _).seq ((modeFree_identity _).seq (hobservation.seq
    (hraw.seq hnormalized)))

/-- The traversal of an admission does the same in both modes. -/
theorem modeFree_canonicalPayload (admission : CanonicalAdmission) :
    ModeFree (encodeCanonicalPayload admission) := by
  unfold encodeCanonicalPayload
  refine (modeFree_identity _).seq ((modeFree_declaration _).seq ((modeFree_envelope _).seq
    ((modeFree_retry _).seq ((modeFree_batch _).seq ((modeFree_lifecycle _).seq
    ((ModeFree.put _).seq ?_))))))
  split
  next =>
    exact (modeFree_counted modeFree_lineage _).seq (modeFree_counted modeFree_sourceGap _)
  next => exact ModeFree.nil

end Encoders

/-- The counting pass and the encoding pass over an admission. -/
inductive Passes (admission : CanonicalAdmission) : Prop
  | fits (payload : Bytes) (encoded : encodeBytes (encodeCanonicalPayload admission) = .ok payload)
      (short : payload.length ≤ maxAdmissionPayloadV1)
      (measured : admissionFrameLenV1 admission =
        .ok (journalV1FramePrefixLen + payload.length + journalV1FrameCrcLen))
  | long (payload : Bytes) (encoded : encodeBytes (encodeCanonicalPayload admission) = .ok payload)
      (large : maxAdmissionPayloadV1 < payload.length)
      (measured : admissionFrameLenV1 admission = .error .payloadTooLarge)
  | refused (error : JournalV1Error)
      (encoded : encodeBytes (encodeCanonicalPayload admission) = .error error)
      (measured : admissionFrameLenV1 admission = .error error)

theorem passes (admission : CanonicalAdmission) : Passes admission := by
  obtain ⟨payload, hwrites⟩ | ⟨error, herror⟩ := modeFree_canonicalPayload admission
  · have hencoded := encodeBytes_of_writes hwrites
    obtain ⟨counted, hcount, hcounted⟩ := hwrites.counted
    have hmax : maxAdmissionPayloadV1 < 2 ^ 64 - 1 := by decide
    have hmeasured : admissionFrameLenV1 admission = (do
        refuse (maxAdmissionPayloadV1 < counted.len) JournalV1Error.payloadTooLarge
        pure (journalV1FramePrefixLen + counted.len + journalV1FrameCrcLen)) := by
      unfold admissionFrameLenV1
      rw [hcount]
      rfl
    by_cases hshort : payload.length ≤ maxAdmissionPayloadV1
    · have hlen : counted.len = payload.length := by omega
      refine .fits payload hencoded hshort ?_
      rw [hmeasured, hlen, then_ok, refuse_ok, pure_ok]
      exact ⟨by omega, rfl⟩
    · refine .long payload hencoded (by omega) ?_
      rw [hmeasured, bind_error, refuse_error]
      exact Or.inl ⟨by omega, rfl⟩
  · refine .refused error ?_ ?_
    · unfold encodeBytes
      rw [herror]
      rfl
    · unfold admissionFrameLenV1
      rw [herror]
      rfl

theorem frameBytes_of_short (appendSequence : U64) {payload : Bytes}
    (h : payload.length ≤ maxAdmissionPayloadV1) :
    frameBytes appendSequence payload = .ok (frame appendSequence payload) := by
  rw [frameBytes_ok]
  exact ⟨h, rfl⟩

/-- An admission either has its frames, all of one length, or every pass refuses it alike. -/
theorem prepared_cases (admission : CanonicalAdmission) :
    (∃ payload, admissionFrameLenV1 admission = .ok (frame 0 payload).length ∧
      PreparedAdmissionV1.new admission = .ok ⟨admission, payload, (frame 0 payload).length⟩ ∧
      ∀ sequence : AppendSequenceV1,
        frameBytes sequence.value payload = .ok (frame sequence.value payload) ∧
        encodeAdmissionFrameV1 sequence admission = .ok (frame sequence.value payload)) ∨
    ∃ error, admissionFrameLenV1 admission = .error error ∧
      PreparedAdmissionV1.new admission = .error ⟨error, admission⟩ ∧
      ∀ sequence : AppendSequenceV1, encodeAdmissionFrameV1 sequence admission = .error error := by
  cases passes admission with
  | fits payload encoded short measured =>
    refine Or.inl ⟨payload, ?_, ?_, ?_⟩
    · rw [measured, length_frame]
    · unfold PreparedAdmissionV1.new
      rw [measured, encoded, length_frame]
      simp
    · intro sequence
      have hframe := frameBytes_of_short sequence.value short
      refine ⟨hframe, ?_⟩
      unfold encodeAdmissionFrameV1
      rw [encoded]
      exact hframe
  | long payload encoded large measured =>
    refine Or.inr ⟨_, measured, ?_, ?_⟩
    · unfold PreparedAdmissionV1.new
      rw [measured]
    · intro sequence
      unfold encodeAdmissionFrameV1
      rw [encoded]
      change frameBytes sequence.value payload = _
      unfold frameBytes
      rw [bind_error, refuse_error]
      exact Or.inl ⟨large, rfl⟩
  | refused error encoded measured =>
    refine Or.inr ⟨error, measured, ?_, ?_⟩
    · unfold PreparedAdmissionV1.new
      rw [measured]
    · intro sequence
      unfold encodeAdmissionFrameV1
      rw [encoded]
      rfl

theorem intoFrame_of_frame {admission : CanonicalAdmission} {payload : Bytes}
    {sequence : AppendSequenceV1}
    (h : frameBytes sequence.value payload = .ok (frame sequence.value payload)) :
    (PreparedAdmissionV1.mk admission payload (frame 0 payload).length).intoFrame sequence =
      .ok ⟨admission, sequence, frame sequence.value payload⟩ := by
  have hlength : (frame sequence.value payload).length = (frame 0 payload).length := by
    rw [length_frame, length_frame]
  unfold PreparedAdmissionV1.intoFrame
  dsimp only
  rw [h]
  dsimp only
  rw [if_pos hlength]

/-- What a submission carries from its measure on: the measure of its own admission. -/
def SubmitPhase.Measured : SubmitPhase → Prop
  | .measured command length => length = admissionFrameLenV1 command.admission
  | .reserved command _ _ frameLen => admissionFrameLenV1 command.admission = .ok frameLen
  | _ => True

namespace Runtime

def Measured (runtime : Runtime) : Prop := ∀ phase ∈ runtime.submits, phase.Measured

theorem Measured.set {runtime next : Runtime} (h : runtime.Measured) {submit : Nat}
    {phase : SubmitPhase} (hsubmits : next.submits = runtime.submits.set submit phase)
    (hphase : phase.Measured) : next.Measured := by
  intro other hother
  rw [hsubmits] at hother
  obtain hother | rfl := List.mem_or_eq_of_mem_set hother
  · exact h other hother
  · exact hphase

theorem Measured.same {runtime next : Runtime} (h : runtime.Measured)
    (hsubmits : next.submits = runtime.submits) : next.Measured := by
  unfold Measured
  rw [hsubmits]
  exact h

theorem Measured.check {runtime : Runtime} (h : runtime.Measured) (submit : Nat)
    (command : IngressCommand) : (runtime.check submit command).Measured := by
  unfold Runtime.check
  split
  next => exact h.set rfl trivial
  next => exact h.set rfl trivial

theorem Measured.reserve {runtime : Runtime} (h : runtime.Measured) (submit : Nat)
    {command : IngressCommand} {measured : Except JournalV1Error Nat}
    (hmeasured : measured = admissionFrameLenV1 command.admission) :
    (runtime.reserve submit command measured).Measured := by
  unfold Runtime.reserve
  split
  next => exact h.set rfl trivial
  next slotIndex terminal frameLen next hreserve =>
    obtain ⟨_, hne, -⟩ | ⟨_, _, hlen, heq, -, -⟩ := IngressState.reserve_next hreserve
    · cases hne
    · cases heq
      exact h.set rfl (hmeasured.symm.trans hlen)

theorem Measured.prepare {runtime : Runtime} (h : runtime.Measured) (submit : Nat)
    (command : IngressCommand) (slotIndex terminal frameLen : Nat) :
    (runtime.prepare submit command slotIndex terminal frameLen).Measured := by
  refine h.set rfl ?_
  split
  next => split <;> trivial
  next => trivial

theorem submits_publish (runtime : Runtime) (inFlight slotIndex : Nat)
    (admission : CanonicalAdmission) (append : AppendIdentity) :
    (runtime.publish inFlight slotIndex admission append).submits = runtime.submits := by
  unfold Runtime.publish
  split <;> rfl

/-- Only the measuring step and the reservation say something new of a measure. -/
theorem Measured.step {runtime next : Runtime} (h : runtime.Measured) {event : RuntimeEvent}
    (hstep : runtime.step event = some next) : next.Measured := by
  have hmem : ∀ {i : Nat} {phase : SubmitPhase}, runtime.submits[i]? = some phase →
      phase.Measured := fun hi => h _ (List.mem_of_getElem? hi)
  cases event with
  | enter command =>
    cases hstep
    intro phase hphase
    rw [List.mem_append, List.mem_singleton] at hphase
    obtain hphase | rfl := hphase
    · exact h phase hphase
    · trivial
  | check submit =>
    simp only [Runtime.step] at hstep
    split at hstep
    next => cases hstep; exact h.check submit _
    next => cases hstep
  | measure submit =>
    simp only [Runtime.step] at hstep
    split at hstep
    next => cases hstep; exact h.set rfl rfl
    next => cases hstep
  | reserve submit =>
    simp only [Runtime.step] at hstep
    split at hstep
    next hsubmit => cases hstep; exact h.reserve submit (hmem hsubmit)
    next => cases hstep
  | prepare submit =>
    simp only [Runtime.step] at hstep
    split at hstep
    next => cases hstep; exact h.prepare submit _ _ _ _
    next => cases hstep
  | enqueue submit =>
    simp only [Runtime.step] at hstep
    split at hstep
    next => cases hstep; exact h.set rfl trivial
    next => cases hstep
  | rollback submit =>
    simp only [Runtime.step] at hstep
    split at hstep
    next => cases hstep; exact h.set rfl trivial
    next => cases hstep
  | takeNext =>
    cases hstep
    exact h.same (takeNext_shared runtime).2
  | append inFlight identity =>
    simp only [Runtime.step] at hstep
    split at hstep
    next => cases hstep; exact h.same rfl
    next => cases hstep
  | publish inFlight =>
    simp only [Runtime.step] at hstep
    split at hstep
    next => cases hstep; exact h.same (submits_publish _ _ _ _ _)
    next => cases hstep
  | completeHandled inFlight =>
    simp only [Runtime.step] at hstep
    split at hstep
    next => cases hstep; exact h.same rfl
    next => cases hstep
  | drop inFlight =>
    simp only [Runtime.step] at hstep
    split at hstep
    next => cases hstep; exact h.same rfl
    next => cases hstep
  | completeDurableBatch entries committed retry =>
    cases hstep
    exact h.same rfl
  | closeAdmission =>
    cases hstep
    exact h.same rfl
  | stop =>
    cases hstep
    exact h.same rfl

theorem Measured.run {runtime final : Runtime} (h : runtime.Measured) {events : List RuntimeEvent}
    (hrun : runtime.run events = some final) : final.Measured := by
  induction events generalizing runtime with
  | nil =>
    cases hrun
    exact h
  | cons event rest ih =>
    unfold Runtime.run at hrun
    split at hrun
    next hstep => exact ih (h.step hstep) hrun
    next => cases hrun

end Runtime

/-- The counting pass accepts an admission exactly when its frame can be made, with the length that
the frame has under every sequence; the frame is the encoded one; every pass refuses alike; and
neither a preparation nor a submission meets a length other than the measured one. -/
theorem measure_eq_encode (admission : CanonicalAdmission) :
    (∀ (sequence : AppendSequenceV1) (n : Nat), admissionFrameLenV1 admission = .ok n ↔
      ∃ prepared made, PreparedAdmissionV1.new admission = .ok prepared ∧
        prepared.intoFrame sequence = .ok made ∧ made.bytes.length = n) ∧
    (∀ (sequence : AppendSequenceV1) (prepared : PreparedAdmissionV1),
      PreparedAdmissionV1.new admission = .ok prepared →
        ∃ bytes, frameBytes sequence.value prepared.payload = .ok bytes ∧
          bytes.length = prepared.frameLen ∧
          prepared.intoFrame sequence = .ok ⟨admission, sequence, bytes⟩ ∧
          encodeAdmissionFrameV1 sequence admission = .ok bytes) ∧
    (∀ (sequence : AppendSequenceV1) (error : JournalV1Error),
      admissionFrameLenV1 admission = .error error ↔
        encodeAdmissionFrameV1 sequence admission = .error error) ∧
    (∀ error : PrepareAdmissionError, PreparedAdmissionV1.new admission = .error error ↔
      admissionFrameLenV1 admission = .error error.error ∧ error.admission = admission) ∧
    (∀ (frameLen : Nat) (payload : Bytes), admissionFrameLenV1 admission = .ok frameLen →
      encodeBytes (encodeCanonicalPayload admission) = .ok payload →
        journalV1FramePrefixLen + payload.length + journalV1FrameCrcLen = frameLen) ∧
    ∀ (retry : RetryStateSnapshot) (start runtime : Runtime) (events : List RuntimeEvent)
      (submit : Nat) (command : IngressCommand) (slotIndex terminal frameLen : Nat),
      start.Opened retry → start.run events = some runtime → command.admission = admission →
      runtime.submits[submit]? = some (.reserved command slotIndex terminal frameLen) →
        ∃ prepared, PreparedAdmissionV1.new admission = .ok prepared ∧
          prepared.frameLen = frameLen := by
  have hcases := prepared_cases admission
  refine ⟨?_, ?_, ?_, ?_, ?_, ?_⟩
  · intro sequence n
    obtain ⟨payload, hmeasure, hnew, hframes⟩ | ⟨error, hmeasure, hnew, -⟩ := hcases
    · have hinto := @intoFrame_of_frame admission _ sequence (hframes sequence).1
      rw [hmeasure, hnew]
      constructor
      · intro hlen
        cases hlen
        refine ⟨_, _, rfl, hinto, ?_⟩
        rw [length_frame, length_frame]
      · intro hmade
        obtain ⟨prepared, made, hprepared, hmade, rfl⟩ := hmade
        cases hprepared
        rw [hinto] at hmade
        cases hmade
        rw [length_frame, length_frame]
    · rw [hmeasure, hnew]
      constructor
      · intro hlen
        cases hlen
      · intro hmade
        obtain ⟨_, _, hprepared, -⟩ := hmade
        cases hprepared
  · intro sequence prepared hprepared
    obtain ⟨payload, -, hnew, hframes⟩ | ⟨error, -, hnew, -⟩ := hcases
    · rw [hnew] at hprepared
      cases hprepared
      obtain ⟨hframe, hencode⟩ := hframes sequence
      refine ⟨_, hframe, ?_, intoFrame_of_frame hframe, hencode⟩
      rw [length_frame, length_frame]
    · rw [hnew] at hprepared
      cases hprepared
  · intro sequence error
    obtain ⟨payload, hmeasure, -, hframes⟩ | ⟨other, hmeasure, -, hencode⟩ := hcases
    · rw [hmeasure, (hframes sequence).2]
      simp
    · rw [hmeasure, hencode sequence]
      simp
  · intro error
    obtain ⟨payload, hmeasure, hnew, -⟩ | ⟨other, hmeasure, hnew, -⟩ := hcases
    · rw [hmeasure, hnew]
      simp
    · rw [hmeasure, hnew]
      obtain ⟨own, carried⟩ := error
      simp [eq_comm]
  · intro frameLen payload hmeasure hpayload
    cases passes admission with
    | fits own encoded short measured =>
      rw [encoded] at hpayload
      cases hpayload
      rw [measured] at hmeasure
      cases hmeasure
      rfl
    | long own encoded large measured =>
      rw [measured] at hmeasure
      cases hmeasure
    | refused error encoded measured =>
      rw [measured] at hmeasure
      cases hmeasure
  · intro retry start runtime events submit command slotIndex terminal frameLen hopened hrun
      hadmission hsubmit
    have hstart : start.Measured := by
      obtain ⟨_, _, -, hsubmits, -⟩ := hopened
      intro phase hphase
      rw [hsubmits] at hphase
      cases hphase
    have hmeasured := hstart.run hrun _ (List.mem_of_getElem? hsubmit)
    change admissionFrameLenV1 command.admission = .ok frameLen at hmeasured
    rw [hadmission] at hmeasured
    obtain ⟨payload, hmeasure, hnew, -⟩ | ⟨error, hmeasure, -⟩ := hcases
    · rw [hmeasure] at hmeasured
      cases hmeasured
      exact ⟨_, hnew, rfl⟩
    · rw [hmeasure] at hmeasured
      cases hmeasured

theorem sampleCommand_reserved :
    (Runtime.sampleStart.run (Runtime.sampleEvents.take 4)).any (fun runtime : Runtime =>
      match (runtime.submits[0]? : Option SubmitPhase) with
      | some (.reserved command _ _ _) => decide (command = Runtime.sampleCommand)
      | _ => false) = true := by
  decide +kernel

/-- The first submission of the sample holds the length that its preparation has. -/
theorem measure_eq_encode_sample : ∃ runtime slotIndex terminal frameLen prepared,
    Runtime.sampleStart.run (Runtime.sampleEvents.take 4) = some runtime ∧
      runtime.submits[0]? = some (.reserved Runtime.sampleCommand slotIndex terminal frameLen) ∧
      PreparedAdmissionV1.new Runtime.sampleCommand.admission = .ok prepared ∧
      prepared.frameLen = frameLen := by
  have hopened : Runtime.sampleStart.Opened Runtime.sampleRetryState :=
    ⟨sampleIdentity 1, Runtime.sampleByteLimits, rfl, rfl, rfl, rfl⟩
  obtain ⟨runtime, hrun, hreached⟩ := (Option.any_eq_true _ _).mp sampleCommand_reserved
  split at hreached
  next command slotIndex terminal frameLen hsubmit =>
    have hcommand : command = Runtime.sampleCommand := of_decide_eq_true hreached
    rw [hcommand] at hsubmit
    obtain ⟨-, -, -, -, -, hlengths⟩ := measure_eq_encode Runtime.sampleCommand.admission
    obtain ⟨prepared, hprepared, hlength⟩ :=
      hlengths _ _ runtime _ 0 _ slotIndex terminal frameLen hopened hrun rfl hsubmit
    exact ⟨runtime, slotIndex, terminal, frameLen, prepared, hrun, hsubmit, hprepared, hlength⟩
  next => cases hreached

/-- No admission that a registry authorises is refused for its size: its payload fits the journal,
so it has a frame under every sequence. -/
theorem authorised_admission_fits {admission : CanonicalAdmission} (h : admission.Built) :
    ∃ payload, encodeBytes (encodeCanonicalPayload admission) = .ok payload ∧
      payload.length ≤ maxAdmissionPayloadV1 ∧ payload.length < 2 ^ 32 ∧
      ∀ sequence : AppendSequenceV1, encodeAdmissionFrameV1 sequence admission =
        .ok (frame sequence.value payload) := by
  obtain ⟨payload, hwrites, hlength, -⟩ := h.frameLen
  have hencoded := encodeBytes_of_writes hwrites
  have hmax : maxAdmissionPayloadV1 < 2 ^ 32 := by decide
  refine ⟨payload, hencoded, hlength, by omega, ?_⟩
  intro sequence
  unfold encodeAdmissionFrameV1
  rw [hencoded]
  exact frameBytes_of_short sequence.value hlength

/-- A text of a quarter of the scalars that a text can have. -/
def longText (letter : Char) : ExactText :=
  ⟨List.replicate 1024 letter, by
    unfold validateExactText
    rw [List.length_take, List.length_replicate]
    rfl⟩

def textPayload : SeriesDeclarationPayload := { sampleDeclarationPayload with valueFamily := .text }

def textDeclaration : SeriesDeclaration := { sampleDeclaration with payload := textPayload }

def textHistory : SeriesHistory := { sampleHistory with declarations := [textDeclaration] }

def textRegistry : SeriesRegistry :=
  { sampleRegistry with series := [(sampleIdentity 1, textHistory)] }

def textObservations : List Observation :=
  [{ sampleObservationAt 1 1 with value := .text (longText 'x') },
    { sampleObservationAt 2 2 with value := .text (longText 'y') },
    { sampleObservationAt 3 3 with value := .text (longText 'z') }]

theorem textObservations_valid : validateObserved .sampled textObservations [] = .ok () := by
  decide +kernel

/-- A record of three observations whose values are long texts. -/
def textDecoded : DecodedAdmissionV1 :=
  { sampleDecoded with
    declaration := textDeclaration.mirror
    envelope := ⟨sampleEnvelope.series, .observed textObservations [], textObservations_valid⟩
    evidence := .observed (sampleLineages textObservations) [] }

theorem textRegistry_reachable : textRegistry.Reachable := by
  have h : (SeriesRegistry.new (sampleIdentity 1) sampleLimits).register (sampleIdentity 1)
      sampleBinding textPayload ⟨sampleTime, none⟩ = .ok (textDeclaration, textRegistry) := by
    decide +kernel
  exact .register (.new _ _) h

theorem textRegistry_current :
    textRegistry.Current textHistory textDeclaration textDecoded.declaration :=
  ⟨by decide +kernel, rfl, rfl, rfl⟩

theorem textDecoded_long :
    (encodeDecodedPayload textDecoded (.count 0)).toOption.any
      (fun written => decide (3 * 1024 < written.2.len)) = true := by
  decide +kernel

theorem authorised_admission_fits_sample : ∃ admission payload,
    admission.mirror 1 = textDecoded ∧
      encodeBytes (encodeCanonicalPayload admission) = .ok payload ∧
      3 * 1024 < payload.length ∧ payload.length ≤ maxAdmissionPayloadV1 := by
  have hvalid : validateDecoded textDecoded = .ok () := by decide +kernel
  obtain ⟨admission, hadmit, hmirror⟩ :=
    readmit_of_validateDecoded textRegistry_reachable.coherent textRegistry_current hvalid
  have hbuilt : admission.Built :=
    ⟨textRegistry, textRegistry_reachable, readmit_constructible hadmit⟩
  obtain ⟨payload, hencoded, hlength, hshort, -⟩ := authorised_admission_fits hbuilt
  obtain ⟨written, hwrites, -⟩ := hbuilt.frameLen
  obtain rfl : written = payload :=
    Except.ok.inj ((encodeBytes_of_writes hwrites).symm.trans hencoded)
  -- the count of the written bytes is the length that the texts add up to
  obtain ⟨counted, hcount, hcounted⟩ := hwrites.count (by omega)
  rw [← encodeDecodedPayload_mirror admission 1] at hcount
  have hlong := textDecoded_long
  rw [← hmirror] at hlong
  change (encodeDecodedPayload (admission.mirror 1) (.count 0)).toOption.any _ = true at hlong
  rw [hcount] at hlong
  have htexts : 3 * 1024 < counted.len := of_decide_eq_true hlong
  rw [hcounted] at htexts
  exact ⟨admission, written, hmirror, hencoded, htexts, hlength⟩

end Historian
