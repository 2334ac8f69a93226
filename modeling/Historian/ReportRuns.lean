import Historian.ReportSafety

namespace Historian

open Wire Checks Interruption Run

variable {rendering : Rendering} {held : Prop} {reports : Reports}

theorem isSome_of_isValid {entry : Option ReportEntry} (h : IsValid rendering entry) :
    entry.isSome = true := by
  obtain ⟨files, rfl, -⟩ := h
  rfl

/-- The prior moves back to the final name. -/
theorem keeps_renamePrior : Keeps
    (fun r => r.final = none ∧ r.staging = none ∧ IsValid rendering r.prior)
    (renameAndSync .prior .final)
    (fun _ => SettledReports rendering held) (RecoverableReports rendering held) := by
  refine keeps_rename .prior .final ?_ ?_ fun r => SettledReports.recoverable
  · intro r hr
    obtain ⟨hfinal, hstaging, hprior⟩ := hr
    exact .displaced hfinal (hstaging ▸ isPlain_none) hprior
  · intro r hr
    obtain ⟨hfinal, hstaging, hprior⟩ := hr
    exact ⟨.inl hprior, hstaging, rfl⟩

/-- A final that is removed entry by entry, beside a valid prior. -/
theorem keeps_removeFinal : Keeps
    (fun r => IsPlain r.final ∧ r.staging = none ∧ IsValid rendering r.prior)
    (removeAndSync .final)
    (fun _ r => r.final = none ∧ r.staging = none ∧ IsValid rendering r.prior)
    (RecoverableReports rendering held) := by
  refine keeps_remove .final ?_ ?_ ?_ ?_
  · intro r hr
    obtain ⟨hfinal, hstaging, hprior⟩ := hr
    exact .replacing hfinal hstaging hprior
  · intro r files hr _
    obtain ⟨-, hstaging, hprior⟩ := hr
    exact .replacing (isPlain_directory files) hstaging hprior
  · intro r hr
    exact ⟨rfl, hr.2⟩
  · intro r hr
    obtain ⟨hfinal, hstaging, hprior⟩ := hr
    exact .replacing (hfinal ▸ isPlain_none) hstaging hprior

theorem keeps_restorePrior : Keeps
    (fun r => IsPlain r.final ∧ r.staging = none ∧ IsValid rendering r.prior) restorePrior
    (fun _ => SettledReports rendering held) (RecoverableReports rendering held) :=
  keeps_removeFinal.bind fun _ => keeps_renamePrior

theorem keeps_removePrior : Keeps
    (fun r => IsValid rendering r.final ∧ r.staging = none ∧ IsPlain r.prior)
    (removeAndSync .prior)
    (fun _ => PublishedReports rendering) (RecoverableReports rendering held) := by
  refine keeps_remove .prior ?_ ?_ ?_ fun r hr => hr.settled.recoverable
  · intro r hr
    obtain ⟨hfinal, hstaging, hprior⟩ := hr
    exact .cleaning hfinal hstaging hprior
  · intro r files hr _
    obtain ⟨hfinal, hstaging, -⟩ := hr
    exact .cleaning hfinal hstaging (isPlain_directory files)
  · intro r hr
    obtain ⟨hfinal, hstaging, -⟩ := hr
    exact ⟨hfinal, hstaging, rfl⟩

theorem keeps_removeStaging : Keeps
    (fun r => (IsValid rendering r.final ∨ r.final = none ∧ ¬held) ∧ IsPlain r.staging ∧
      r.prior = none) (removeAndSync .staging)
    (fun _ => SettledReports rendering held) (RecoverableReports rendering held) := by
  refine keeps_remove .staging ?_ ?_ ?_ fun r => SettledReports.recoverable
  · intro r hr
    obtain ⟨hfinal, hstaging, hprior⟩ := hr
    exact .building hfinal hstaging hprior
  · intro r files hr _
    obtain ⟨hfinal, -, hprior⟩ := hr
    exact .building hfinal (isPlain_directory files) hprior
  · intro r hr
    obtain ⟨hfinal, -, hprior⟩ := hr
    exact ⟨hfinal, rfl, hprior⟩

theorem keeps_dropStaging : Keeps
    (fun r => r.final = none ∧ IsPlain r.staging ∧ IsValid rendering r.prior)
    (removeAndSync .staging)
    (fun _ r => r.final = none ∧ r.staging = none ∧ IsValid rendering r.prior)
    (RecoverableReports rendering held) := by
  refine keeps_remove .staging ?_ ?_ ?_ ?_
  · intro r hr
    obtain ⟨hfinal, hstaging, hprior⟩ := hr
    exact .displaced hfinal hstaging hprior
  · intro r files hr _
    obtain ⟨hfinal, -, hprior⟩ := hr
    exact .displaced hfinal (isPlain_directory files) hprior
  · intro r hr
    obtain ⟨hfinal, -, hprior⟩ := hr
    exact ⟨hfinal, rfl, hprior⟩
  · intro r hr
    obtain ⟨hfinal, hstaging, hprior⟩ := hr
    exact .displaced hfinal (hstaging ▸ isPlain_none) hprior

theorem RecoverableReports.final_of_no_prior (h : RecoverableReports rendering held reports)
    (hprior : reports.prior = none) :
    IsValid rendering reports.final ∨ reports.final = none ∧ ¬held := by
  cases h with
  | building hfinal hstaging hnone => exact hfinal
  | displaced hfinal hstaging hvalid => exact absurd (hprior ▸ hvalid) not_isValid_none
  | replacing hfinal hstaging hvalid => exact absurd (hprior ▸ hvalid) not_isValid_none
  | cleaning hfinal hstaging hplain => exact .inl hfinal

/-- What the survey has found is settled. -/
theorem keeps_settleReports {survey : ReportSurvey} (preferPrior : Bool)
    (h : RecoverableReports rendering held reports)
    (hsurvey : SurveyedReports rendering reports survey)
    (hfinal : reports.final.isSome = true → IsValid rendering reports.final)
    (hprior : reports.prior.isSome = true → IsValid rendering reports.prior) :
    Keeps (· = reports) (settleReports preferPrior survey)
      (fun _ => SettledReports rendering held) (RecoverableReports rendering held) := by
  have hplain := h.plain
  have hnot := hsurvey.not_all
  rw [hsurvey.finalPresent, hsurvey.stagingPresent, hsurvey.priorPresent] at hnot
  unfold settleReports
  rw [hsurvey.finalPresent, hsurvey.stagingPresent, hsurvey.priorPresent]
  cases hprior' : reports.prior with
  | none =>
    -- without a prior there is at most a staging to remove
    have hbefore := h.final_of_no_prior hprior'
    cases hstaging' : reports.staging with
    | none =>
      have hsettled : SettledReports rendering held reports := ⟨hbefore, hstaging', hprior'⟩
      cases reports.final with
      | none => exact keeps_pure fun r hr => hr ▸ hsettled
      | some entry => exact keeps_pure fun r hr => hr ▸ hsettled
    | some staging =>
      have hremove := (keeps_removeStaging).at ⟨hbefore, hplain.2.1, hprior'⟩
      cases reports.final with
      | none => exact hremove
      | some entry => exact hremove
  | some prior =>
    have hvalid := hprior (by rw [hprior']; rfl)
    cases hfinal' : reports.final with
    | none =>
      cases hstaging' : reports.staging with
      | none => exact keeps_renamePrior.at ⟨hfinal', hstaging', hvalid⟩
      | some staging =>
        exact (keeps_dropStaging.at ⟨hfinal', hplain.2.1, hvalid⟩).bind fun _ => keeps_renamePrior
    | some entry =>
      have hcurrent := hfinal (by rw [hfinal']; rfl)
      cases hstaging' : reports.staging with
      | none =>
        cases preferPrior with
        | true => exact keeps_restorePrior.at ⟨hplain.1, hstaging', hvalid⟩
        | false =>
          refine (keeps_removePrior.at ⟨hcurrent, hstaging', hplain.2.2⟩).weaken (fun _ h => h) ?_
            fun _ h => h
          intro _ r hr
          exact hr.settled
      | some staging =>
        rw [hprior', hfinal', hstaging'] at hnot
        exact absurd ⟨rfl, rfl, rfl⟩ hnot

theorem keeps_reads {α : Type} {read : Reports → Except EvidenceError α} :
    Keeps (SettledReports rendering held) (readStep read)
      (fun _ => SettledReports rendering held) (RecoverableReports rendering held) :=
  (keeps_read fun _ => SettledReports.recoverable).weaken (fun _ h => h) (fun _ _ h => h.1)
    fun _ h => h

theorem keeps_fails {e : EvidenceError} {pre post crash : Reports → Prop}
    (hcrash : ∀ r, pre r → crash r) :
    Keeps pre (Run.lift (.error e) : ReportRun Unit) (fun _ => post) crash :=
  keeps_lift fun r hr => hcrash r hr

theorem keeps_checkSettled : Keeps (SettledReports rendering held) (checkSettled rendering)
    (fun _ => SettledReports rendering held) (RecoverableReports rendering held) := by
  have hcrash : ∀ r, SettledReports rendering held r → RecoverableReports rendering held r :=
    fun _ => SettledReports.recoverable
  unfold checkSettled
  refine (keeps_whenPresent .final hcrash ?_ fun r hr _ => hr).bind fun _ => ?_
  · exact keeps_reads.weaken (fun _ h => h.1) (fun _ _ h => h) fun _ h => h
  · refine keeps_reads.bind fun staging => ?_
    cases staging with
    | true => exact keeps_fails hcrash
    | false =>
      refine keeps_reads.bind fun prior => ?_
      cases prior with
      | true => exact keeps_fails hcrash
      | false => exact keeps_pure fun _ h => h

/-- A reconciliation settles the reports, or it leaves what the next one can work with. -/
theorem keeps_reconcile (preferPrior : Bool) : Keeps (RecoverableReports rendering held)
    (reconcileReportTransaction rendering preferPrior)
    (fun _ => SettledReports rendering held) (RecoverableReports rendering held) := by
  refine keeps_each fun r hr => (keeps_survey hr).bind fun survey => keeps_assume fun hsurvey => ?_
  refine (keeps_refuse hr).bind fun _ => keeps_assume fun hrefused => ?_
  have hprior : r.prior.isSome = true → IsValid rendering r.prior := by
    intro hpresent
    apply hsurvey.priorValid
    rw [← hsurvey.priorPresent] at hpresent
    cases hvalid : survey.priorValid with
    | true => rfl
    | false => exact absurd ⟨hpresent, by rw [hvalid]; exact Bool.false_ne_true⟩ hrefused
  split
  next hinvalid =>
    refine (keeps_refuse hr).bind fun _ => keeps_assume fun hambiguous => ?_
    rw [not_or, not_not, hsurvey.stagingPresent, Option.not_isSome_iff_eq_none] at hambiguous
    refine (keeps_restorePrior.at ⟨hr.plain.1, hambiguous.2, ?_⟩).bind fun _ => keeps_reads
    exact hsurvey.priorValid hambiguous.1
  next hvalid =>
    refine (keeps_settleReports preferPrior hr hsurvey ?_ hprior).bind fun _ => keeps_checkSettled
    intro hpresent
    apply hsurvey.finalValid
    rw [← hsurvey.finalPresent] at hpresent
    cases hfinal : survey.finalValid with
    | true => rfl
    | false => exact absurd ⟨hpresent, by rw [hfinal]; exact Bool.false_ne_true⟩ hvalid

/-- While a bundle is staged. -/
structure BuildingReports (rendering : Rendering) (held : Prop) (reports : Reports) : Prop where
  final : IsValid rendering reports.final ∨ reports.final = none ∧ ¬held
  staging : IsPlain reports.staging
  prior : reports.prior = none

theorem BuildingReports.recoverable (h : BuildingReports rendering held reports) :
    RecoverableReports rendering held reports := .building h.final h.staging h.prior

theorem BuildingReports.createFile {r : Reports} {file : Text} {bytes : Bytes}
    (h : BuildingReports rendering held reports)
    (hcreate : reports.createFile .staging file bytes = .ok r) :
    BuildingReports rendering held r := by
  unfold Reports.createFile at hcreate
  split at hcreate
  next files hentry =>
    split at hcreate
    next => cases hcreate
    next =>
      rw [← Except.ok.inj hcreate]
      exact ⟨h.final, isPlain_directory _, h.prior⟩
  next => cases hcreate

theorem keeps_writeFile (file : Text) (bytes : Bytes) :
    Keeps (BuildingReports rendering held) (writeFile .staging file bytes)
      (fun _ => BuildingReports rendering held) (RecoverableReports rendering held) := by
  apply keeps_step
  · intro fault r hr
    cases fault.written with
    | none => exact hr.recoverable
    | some length =>
      dsimp only
      cases hcreate : r.createFile .staging file (bytes.take length) with
      | error e => exact hr.recoverable
      | ok r' => exact (hr.createFile hcreate).recoverable
  · intro r hr
    cases hcreate : r.createFile .staging file bytes with
    | error e => exact hr.recoverable
    | ok r' => exact hr.createFile hcreate

theorem keeps_buildingRead {α : Type} {read : Reports → Except EvidenceError α} :
    Keeps (BuildingReports rendering held) (readStep read)
      (fun _ => BuildingReports rendering held) (RecoverableReports rendering held) :=
  (keeps_read fun _ => BuildingReports.recoverable).weaken (fun _ h => h) (fun _ _ h => h.1)
    fun _ h => h

theorem keeps_writeFiles (bundle : BundleFiles) :
    Keeps (BuildingReports rendering held) (writeFiles bundle)
      (fun _ => BuildingReports rendering held) (RecoverableReports rendering held) := by
  induction bundle with
  | nil => exact keeps_pure fun _ h => h
  | cons file rest ih =>
    obtain ⟨name, bytes⟩ := file
    exact (keeps_writeFile name bytes).bind fun _ => keeps_buildingRead.bind fun _ => ih

/-- What is staged has been read back. -/
theorem keeps_stageBundle (bundle : BundleFiles) :
    Keeps (SettledReports rendering held) (stageBundle rendering bundle)
      (fun _ r => BuildingReports rendering held r ∧ IsValid rendering r.staging)
      (RecoverableReports rendering held) := by
  have hcreate : Keeps (SettledReports rendering held) (createDir .staging)
      (fun _ => BuildingReports rendering held) (RecoverableReports rendering held) := by
    refine keeps_change (fun _ => SettledReports.recoverable) ?_
    intro r r' hr hchange
    split at hchange
    next =>
      rw [← Except.ok.inj hchange]
      exact ⟨hr.final, isPlain_directory [], hr.prior⟩
    next => cases hchange
  unfold stageBundle
  refine hcreate.bind fun _ => keeps_buildingRead.bind fun _ => (keeps_writeFiles bundle).bind
    fun _ => keeps_buildingRead.bind fun _ => keeps_each fun r hr => ?_
  refine (keeps_validate .staging hr.recoverable).weaken (fun _ h => h) ?_ fun _ h => h
  intro _ r' hread
  obtain ⟨rfl, hvalid⟩ := hread
  exact ⟨hr, hvalid⟩

/-- The final makes room. -/
theorem keeps_displaceFinal : Keeps
    (fun r => BuildingReports rendering held r ∧ IsValid rendering r.staging)
    (whenPresent .final (renameAndSync .final .prior))
    (fun _ r => r.final = none ∧ IsValid rendering r.staging ∧
      (IsValid rendering r.prior ∨ r.prior = none ∧ ¬held))
    (RecoverableReports rendering held) := by
  refine keeps_whenPresent .final (fun r hr => hr.1.recoverable) ?_ ?_
  · refine keeps_rename .final .prior (fun r hr => hr.1.1.recoverable) ?_ ?_
    · intro r hr
      obtain ⟨⟨hbuilding, hstaging⟩, hpresent⟩ := hr
      refine ⟨rfl, hstaging, .inl ?_⟩
      rcases hbuilding.final with hvalid | ⟨hnone, -⟩
      · exact hvalid
      · exact absurd hnone hpresent
    · intro r hr
      obtain ⟨hfinal, hstaging, hprior | ⟨hprior, hheld⟩⟩ := hr
      · exact .displaced hfinal hstaging.isPlain hprior
      · exact .building (.inr ⟨hfinal, hheld⟩) hstaging.isPlain hprior
  · intro r hr hnone
    obtain ⟨hbuilding, hstaging⟩ := hr
    rw [Reports.entry_final] at hnone
    refine ⟨hnone, hstaging, .inr ⟨hbuilding.prior, ?_⟩⟩
    rcases hbuilding.final with hvalid | ⟨-, hheld⟩
    · exact absurd (hnone ▸ hvalid) not_isValid_none
    · exact hheld

theorem keeps_promote : Keeps
    (fun r => r.final = none ∧ IsValid rendering r.staging ∧
      (IsValid rendering r.prior ∨ r.prior = none ∧ ¬held))
    (renameAndSync .staging .final)
    (fun _ r => IsValid rendering r.final ∧ r.staging = none ∧ IsPlain r.prior)
    (RecoverableReports rendering held) := by
  refine keeps_rename .staging .final ?_ ?_ ?_
  · intro r hr
    obtain ⟨hfinal, hstaging, hprior | ⟨hprior, hheld⟩⟩ := hr
    · exact .displaced hfinal hstaging.isPlain hprior
    · exact .building (.inr ⟨hfinal, hheld⟩) hstaging.isPlain hprior
  · intro r hr
    obtain ⟨-, hstaging, hprior | ⟨hprior, -⟩⟩ := hr
    · exact ⟨hstaging, rfl, hprior.isPlain⟩
    · refine ⟨hstaging, rfl, ?_⟩
      change IsPlain r.prior
      rw [hprior]
      exact isPlain_none
  · intro r hr
    obtain ⟨hfinal, hstaging, hprior⟩ := hr
    exact .cleaning hfinal hstaging hprior

/-- A publication that returns has left one valid bundle. -/
theorem keeps_publish (bundle : BundleFiles) :
    Keeps (SettledReports rendering held) (publishReportBundle rendering bundle)
      (fun _ => PublishedReports rendering) (RecoverableReports rendering held) := by
  have hcleaning : ∀ r, IsValid rendering r.final ∧ r.staging = none ∧ IsPlain r.prior →
      RecoverableReports rendering held r := fun r hr => .cleaning hr.1 hr.2.1 hr.2.2
  have hpublished : ∀ r, PublishedReports rendering r → RecoverableReports rendering held r :=
    fun r hr => hr.settled.recoverable
  refine (keeps_stageBundle bundle).bind fun _ => keeps_displaceFinal.bind fun _ =>
    keeps_promote.bind fun _ => Keeps.bind (keeps_read hcleaning) fun _ => ?_
  refine Keeps.bind (@keeps_whenPresent _ _ (PublishedReports rendering) _ .prior ?_ ?_ ?_) fun _ =>
    (keeps_read hpublished).weaken (fun _ h => h) (fun _ _ h => h.1) fun _ h => h
  · intro r hr
    exact hcleaning r hr.1
  · exact keeps_removePrior.weaken (fun r hr => hr.1.1) (fun _ _ h => h) fun _ h => h
  · intro r hr hnone
    obtain ⟨⟨hfinal, hstaging, -⟩, -⟩ := hr
    exact ⟨hfinal, hstaging, hnone⟩

theorem keeps_rollBack (primary : EvidenceError) {post : Reports → Prop} :
    Keeps (RecoverableReports rendering held) (rollBack rendering primary) (fun _ => post)
      (RecoverableReports rendering held) := by
  unfold rollBack
  refine Keeps.bind ((keeps_reconcile true).rescue fun _ => keeps_fails fun _ h => h) fun _ => ?_
  exact keeps_fails fun r hr => hr.recoverable

/-- Wherever a run ends, it leaves what the next run can work with or refuse. -/
theorem keeps_writeAndValidate :
    Keeps (RecoverableReports rendering held) (writeAndValidate rendering)
      (fun _ => PublishedReports rendering) (RecoverableReports rendering held) := by
  have hlift {α : Type} {pre : Reports → Prop} (r : Except EvidenceError α)
      (hpre : ∀ s, pre s → RecoverableReports rendering held s) :
      Keeps pre (Run.lift r : ReportRun α) (fun _ => pre) (RecoverableReports rendering held) := by
    apply keeps_lift
    intro s hs
    cases r with
    | error e => exact hpre s hs
    | ok x => exact hs
  unfold writeAndValidate
  refine (hlift rendering.bundle fun _ h => h).bind fun bundle => ?_
  refine (hlift (validateBundleBytes rendering bundle) fun _ h => h).bind fun _ => ?_
  refine Keeps.bind (keeps_read fun _ h => h) fun _ => ?_
  refine Keeps.bind ((keeps_reconcile false).weaken (fun _ h => h.1) (fun _ _ h => h) fun _ h => h)
    fun _ => ?_
  refine Keeps.bind ((keeps_publish bundle).rescue fun e => keeps_rollBack e) fun _ => ?_
  exact hlift (summary bundle) fun r hr => hr.settled.recoverable

end Historian
