import Historian.ReportRuns
import Historian.ReportBundle

namespace Historian

open Wire Checks Interruption Run SortedMap

variable {rendering : Rendering} {held : Prop} {reports : Reports} {bundle : BundleFiles}

section Steps

variable {α : Type} {pre post : Reports → Prop}

theorem succeeds_read {read : Reports → Except EvidenceError α} {post : α → Reports → Prop}
    (h : ∀ r, pre r → ∃ x, read r = .ok x ∧ post x r) : Succeeds pre (readStep read) post := by
  apply succeeds_step
  intro r hr
  obtain ⟨x, hread, hx⟩ := h r hr
  exact ⟨x, r, by rw [hread]; rfl, hx⟩

theorem succeeds_change {change : Reports → Except EvidenceError Reports}
    (h : ∀ r, pre r → ∃ r', change r = .ok r' ∧ post r') :
    Succeeds pre (changeStep change) (fun _ => post) := by
  apply succeeds_step
  intro r hr
  obtain ⟨r', hchange, hr'⟩ := h r hr
  exact ⟨(), r', by rw [hchange]; rfl, hr'⟩

theorem succeeds_syncReports : Succeeds pre syncReports (fun _ => pre) :=
  succeeds_read fun _ hr => ⟨(), rfl, hr⟩

theorem succeeds_remove (name : ReportName)
    (hthere : ∀ r, pre r → ∃ files, r.entry name = some (.directory files))
    (hgone : ∀ r, pre r → post (r.put name none)) :
    Succeeds pre (removeAndSync name) (fun _ => post) := by
  unfold removeAndSync removeDirectory
  refine Succeeds.bind (succeeds_step ?_) fun _ => succeeds_syncReports
  intro r hr
  obtain ⟨files, hentry⟩ := hthere r hr
  exact ⟨(), _, by rw [hentry], hgone r hr⟩

theorem succeeds_rename (source target : ReportName)
    (hthere : ∀ r, pre r → r.entry source ≠ none ∧ r.entry target = none)
    (hmoved : ∀ r, pre r → post ((r.put source none).put target (r.entry source))) :
    Succeeds pre (renameAndSync source target) (fun _ => post) := by
  unfold renameAndSync rename
  refine (succeeds_change ?_).bind fun _ => succeeds_syncReports
  intro r hr
  obtain ⟨hsource, htarget⟩ := hthere r hr
  obtain ⟨moved, hentry⟩ := Option.ne_none_iff_exists'.mp hsource
  have hpost := hmoved r hr
  rw [hentry] at hpost
  exact ⟨_, by rw [hentry, htarget], hpost⟩

theorem succeeds_checked (name : ReportName) (hplain : ∀ r, pre r → IsPlain (r.entry name)) :
    Succeeds pre (checkedReportDirectory name)
      (fun present r => pre r ∧ present = (r.entry name).isSome) := by
  apply succeeds_read
  intro r hr
  rcases (hplain r hr).cases with hnone | ⟨files, hsome⟩
  · exact ⟨false, by rw [hnone], hr, by rw [hnone]; rfl⟩
  · exact ⟨true, by rw [hsome], hr, by rw [hsome]; rfl⟩

theorem succeeds_whenPresent {run : ReportRun Unit} (name : ReportName)
    (hplain : ∀ r, pre r → IsPlain (r.entry name))
    (hrun : Succeeds (fun r => pre r ∧ r.entry name ≠ none) run (fun _ => post))
    (hskip : ∀ r, pre r → r.entry name = none → post r) :
    Succeeds pre (whenPresent name run) (fun _ => post) := by
  unfold whenPresent
  refine (succeeds_checked name hplain).bind fun present => ?_
  cases present with
  | true =>
    refine hrun.weaken ?_ fun _ _ h => h
    intro r hr
    refine ⟨hr.1, ?_⟩
    intro hnone
    have hpresent := hr.2
    rw [hnone] at hpresent
    cases hpresent
  | false =>
    apply succeeds_pure
    intro r hr
    exact hskip r hr.1 (Option.isNone_iff_eq_none.mp (Option.isSome_eq_false_iff.mp hr.2.symm))

theorem succeeds_validate (name : ReportName)
    (hvalid : ∀ r, pre r → IsValid rendering (r.entry name)) :
    Succeeds pre (validateBundlePath rendering name) (fun _ => pre) := by
  apply succeeds_read
  intro r hr
  obtain ⟨files, hentry, hfiles⟩ := hvalid r hr
  exact ⟨(), by rw [hentry]; exact hfiles, hr⟩

theorem succeeds_refuse {c : Prop} [Decidable c] {e : EvidenceError} (hnot : ¬c) :
    Succeeds pre (Run.lift (refuse c e) : ReportRun Unit) (fun _ => pre) := by
  have hok : refuse c e = .ok () := refuse_ok.mpr hnot
  exact (succeeds_lift hok).weaken (fun _ h => h) fun _ _ h => h.1

end Steps

/-- Without an interruption, a bundle is found valid exactly when it is. -/
theorem succeeds_presentIsValid (name : ReportName) {present : Bool}
    (hpresent : present = (reports.entry name).isSome) (hplain : IsPlain (reports.entry name)) :
    Succeeds (· = reports) (presentIsValid rendering present name)
      (fun valid r => r = reports ∧ (IsValid rendering (reports.entry name) → valid = true)) := by
  intro r hr
  subst hr
  rcases hplain.cases with hnone | ⟨files, hsome⟩
  · rw [hnone] at hpresent
    subst hpresent
    refine ⟨false, r, rfl, rfl, ?_⟩
    intro hvalid
    exact absurd (hnone ▸ hvalid) not_isValid_none
  · rw [hsome] at hpresent
    subst hpresent
    change ∃ valid r', Settles (bundlePathIsValid rendering name) r (.returned valid) r' ∧ _
    unfold bundlePathIsValid
    cases hread : validateDirectory rendering files with
    | ok u =>
      have hvalidate : Settles (validateBundlePath rendering name) r (.returned ()) r :=
        settles_step (by simp only [hsome, hread]; rfl)
      have hchecked : Settles (do validateBundlePath rendering name; pure true) r
        (.returned true) r := hvalidate.bind settles_pure
      exact ⟨true, r, hchecked.rescue_returned, rfl, fun _ => rfl⟩
    | error e =>
      have hvalidate : Settles (validateBundlePath rendering name) r (.refused e) r :=
        settles_step_refused (by simp only [hsome, hread]; rfl)
      have hchecked : Settles (do validateBundlePath rendering name; pure true) r
        (.refused e) r := hvalidate.bind_refused
      refine ⟨false, r, hchecked.rescue_refused settles_pure, rfl, ?_⟩
      intro hvalid
      obtain ⟨files', hsome', hfiles⟩ := hvalid
      rw [hsome, Option.some.injEq, ReportEntry.directory.injEq] at hsome'
      rw [hsome', hfiles] at hread
      cases hread

/-- The states that a run can leave never have all three entries. -/
theorem RecoverableReports.not_all (h : RecoverableReports rendering held reports) :
    ¬(reports.final.isSome = true ∧ reports.staging.isSome = true ∧
      reports.prior.isSome = true) := by
  intro hall
  obtain ⟨hfinal', hstaging', hprior'⟩ := hall
  cases h with
  | building hfinal hstaging hprior =>
    rw [hprior] at hprior'
    cases hprior'
  | displaced hfinal hstaging hprior =>
    rw [hfinal] at hfinal'
    cases hfinal'
  | replacing hfinal hstaging hprior =>
    rw [hstaging] at hstaging'
    cases hstaging'
  | cleaning hfinal hstaging hprior =>
    rw [hstaging] at hstaging'
    cases hstaging'

/-- Without an interruption, a survey finds the bundles valid that are. -/
theorem succeeds_survey (h : RecoverableReports rendering held reports) :
    Succeeds (· = reports) (surveyReports rendering)
      (fun survey r => (r = reports ∧ SurveyedReports rendering reports survey) ∧
        (IsValid rendering reports.final → survey.finalValid = true) ∧
        (IsValid rendering reports.prior → survey.priorValid = true)) := by
  have hplain := h.plain
  have hchecked (name : ReportName) (hname : IsPlain (reports.entry name)) :=
    @succeeds_checked (· = reports) name fun r hr => hr ▸ hname
  have hsucceeds : Succeeds (· = reports) (surveyReports rendering)
      (fun survey r => r = reports ∧
        (IsValid rendering reports.final → survey.finalValid = true) ∧
        (IsValid rendering reports.prior → survey.priorValid = true)) := by
    unfold surveyReports
    refine ((hchecked .final hplain.1).weaken (fun _ h => h) fun x r hr =>
      show r = reports ∧ x = reports.final.isSome from ⟨hr.1, hr.1 ▸ hr.2⟩).bind
        fun finalPresent => succeeds_assume fun hfinal => ?_
    refine ((hchecked .staging hplain.2.1).weaken (fun _ h => h) fun x r hr =>
      show r = reports ∧ x = reports.staging.isSome from ⟨hr.1, hr.1 ▸ hr.2⟩).bind
        fun stagingPresent => succeeds_assume fun hstaging => ?_
    refine ((hchecked .prior hplain.2.2).weaken (fun _ h => h) fun x r hr =>
      show r = reports ∧ x = reports.prior.isSome from ⟨hr.1, hr.1 ▸ hr.2⟩).bind
        fun priorPresent => succeeds_assume fun hprior => ?_
    have hnot := h.not_all
    rw [← hfinal, ← hstaging, ← hprior] at hnot
    refine (succeeds_refuse hnot).bind fun _ => ?_
    refine (succeeds_presentIsValid .final hfinal hplain.1).bind fun finalValid =>
      succeeds_assume fun hfinalValid => ?_
    refine (succeeds_presentIsValid .prior hprior hplain.2.2).bind fun priorValid =>
      succeeds_assume fun hpriorValid => ?_
    apply succeeds_pure
    intro r hr
    exact ⟨hr, hfinalValid, hpriorValid⟩
  have hkeeps := @keeps_survey rendering reports (fun _ => True) trivial
  refine (hsucceeds.and_keeps hkeeps).weaken (fun _ h => h) ?_
  intro survey r hr
  exact ⟨hr.2, hr.1.2⟩

theorem IsPlain.there {entry : Option ReportEntry} (h : IsPlain entry) (hne : entry ≠ none) :
    ∃ files, entry = some (.directory files) := h.cases.resolve_left hne

theorem IsValid.ne_none {entry : Option ReportEntry} (h : IsValid rendering entry) :
    entry ≠ none := by
  intro hnone
  exact not_isValid_none (hnone ▸ h)

theorem succeeds_renamePrior : Succeeds
    (fun r => r.final = none ∧ r.staging = none ∧ IsValid rendering r.prior)
    (renameAndSync .prior .final) (fun _ => SettledReports rendering held) := by
  refine succeeds_rename .prior .final ?_ ?_
  · intro r hr
    exact ⟨hr.2.2.ne_none, hr.1⟩
  · intro r hr
    exact ⟨.inl hr.2.2, hr.2.1, rfl⟩

theorem succeeds_restorePrior : Succeeds
    (fun r => (∃ files, r.final = some (.directory files)) ∧ r.staging = none ∧
      IsValid rendering r.prior)
    restorePrior (fun _ r => IsValid rendering r.final ∧ SettledReports rendering held r) := by
  have hremove : Succeeds (fun r => (∃ files, r.final = some (.directory files)) ∧
      r.staging = none ∧ IsValid rendering r.prior) (removeAndSync .final)
      (fun _ r => r.final = none ∧ r.staging = none ∧ IsValid rendering r.prior) :=
    succeeds_remove .final (fun r hr => hr.1) fun r hr => ⟨rfl, hr.2⟩
  unfold restorePrior
  refine hremove.bind fun _ => succeeds_rename .prior .final ?_ ?_
  · intro r hr
    exact ⟨hr.2.2.ne_none, hr.1⟩
  · intro r hr
    exact ⟨hr.2.2, .inl hr.2.2, hr.2.1, rfl⟩

/-- What the survey has found is settled. -/
theorem succeeds_settleReports {survey : ReportSurvey}
    (h : RecoverableReports rendering held reports)
    (hsurvey : SurveyedReports rendering reports survey)
    (hfinal : reports.final.isSome = true → IsValid rendering reports.final)
    (hprior : reports.prior.isSome = true → IsValid rendering reports.prior) :
    Succeeds (· = reports) (settleReports false survey)
      (fun _ => SettledReports rendering held) := by
  have hplain := h.plain
  have hkeeps := keeps_settleReports false h hsurvey hfinal hprior
  suffices hreturns : Succeeds (· = reports) (settleReports false survey) (fun _ _ => True) from
    (hreturns.and_keeps hkeeps).weaken (fun _ h => h) fun _ _ h => h.2
  have hnot := hsurvey.not_all
  rw [hsurvey.finalPresent, hsurvey.stagingPresent, hsurvey.priorPresent] at hnot
  unfold settleReports
  rw [hsurvey.finalPresent, hsurvey.stagingPresent, hsurvey.priorPresent]
  have hremove (name : ReportName) (hname : IsPlain (reports.entry name))
      (hne : reports.entry name ≠ none) :
      Succeeds (· = reports) (removeAndSync name) (fun _ r => r = reports.put name none) :=
    succeeds_remove name (fun r hr => hr ▸ hname.there hne) fun r hr => hr ▸ rfl
  cases hprior' : reports.prior with
  | none =>
    cases hstaging' : reports.staging with
    | none =>
      cases reports.final with
      | none => exact succeeds_pure fun _ _ => trivial
      | some entry => exact succeeds_pure fun _ _ => trivial
    | some staging =>
      have hthere : reports.staging ≠ none := by
        rw [hstaging']
        exact Option.some_ne_none _
      have hstaging := (hremove .staging hplain.2.1 hthere).weaken (fun _ h => h)
        fun (_ : Unit) _ _ => trivial
      cases reports.final with
      | none => exact hstaging
      | some entry => exact hstaging
  | some prior =>
    have hvalid := hprior (by rw [hprior']; rfl)
    cases hfinal' : reports.final with
    | none =>
      cases hstaging' : reports.staging with
      | none =>
        exact ((@succeeds_renamePrior rendering held).at ⟨hfinal', hstaging', hvalid⟩).weaken
          (fun _ h => h) fun _ _ _ => trivial
      | some staging =>
        have hthere : reports.staging ≠ none := by
          rw [hstaging']
          exact Option.some_ne_none _
        have hback : Succeeds (· = reports.put .staging none) (renameAndSync .prior .final)
          (fun _ => SettledReports rendering held) := succeeds_renamePrior.at ⟨hfinal', rfl, hvalid⟩
        exact (hremove .staging hplain.2.1 hthere).bind fun _ =>
          hback.weaken (fun _ h => h) fun _ _ _ => trivial
    | some entry =>
      cases hstaging' : reports.staging with
      | none =>
        exact (hremove .prior hplain.2.2 hvalid.ne_none).weaken (fun _ h => h) fun _ _ _ => trivial
      | some staging =>
        rw [hprior', hfinal', hstaging'] at hnot
        exact absurd ⟨rfl, rfl, rfl⟩ hnot

theorem succeeds_checkSettled : Succeeds (SettledReports rendering held) (checkSettled rendering)
    (fun _ => SettledReports rendering held) := by
  have hfinal : ∀ r, SettledReports rendering held r → r.entry .final ≠ none →
      IsValid rendering (r.entry .final) := by
    intro r hr hpresent
    rcases hr.final with hvalid | ⟨hnone, -⟩
    · exact hvalid
    · exact absurd hnone hpresent
  have habsent (name : ReportName) (hnone : ∀ r, SettledReports rendering held r →
      r.entry name = none) : Succeeds (SettledReports rendering held) (checkedReportDirectory name)
        (fun present r => SettledReports rendering held r ∧ present = false) :=
    succeeds_read fun r hr => ⟨false, by rw [hnone r hr], hr, rfl⟩
  unfold checkSettled
  refine (succeeds_whenPresent .final (fun r hr => hr.recoverable.plain.1) ?_
    fun r hr _ => hr).bind fun _ => ?_
  · exact (succeeds_validate .final fun r hr => hfinal r hr.1 hr.2).weaken (fun _ h => h)
      fun _ _ h => h.1
  · refine (habsent .staging fun r hr => hr.staging).bind fun staging => succeeds_assume
      fun hstaging => ?_
    subst hstaging
    refine (habsent .prior fun r hr => hr.prior).bind fun prior => succeeds_assume fun hprior => ?_
    subst hprior
    exact succeeds_pure fun _ h => h

/-- A reconciliation that nothing interrupts succeeds where the prior is missing or valid. -/
theorem succeeds_reconcile : Succeeds
    (fun r => RecoverableReports rendering held r ∧
      (r.prior.isSome = true → IsValid rendering r.prior))
    (reconcileReportTransaction rendering false) (fun _ => SettledReports rendering held) := by
  refine succeeds_each fun r hr => (succeeds_survey hr.1).bind fun survey => ?_
  obtain ⟨hrecoverable, hprior⟩ := hr
  apply succeeds_each
  intro r' hr'
  obtain ⟨⟨rfl, hsurvey⟩, hfinalValid, hpriorValid⟩ := hr'
  have haccepted : ¬(survey.priorPresent = true ∧ ¬survey.priorValid = true) := by
    intro hrefused
    rw [hsurvey.priorPresent] at hrefused
    exact hrefused.2 (hpriorValid (hprior hrefused.1))
  refine (succeeds_refuse haccepted).bind fun _ => ?_
  split
  next hinvalid =>
    -- a final that is not valid stands beside a valid prior
    have hbroken : ¬IsValid rendering r'.final := fun hvalid => hinvalid.2 (hfinalValid hvalid)
    rw [hsurvey.finalPresent] at hinvalid
    have hreplacing : r'.staging = none ∧ IsValid rendering r'.prior := by
      cases hrecoverable with
      | building hfinal hstaging hnone =>
        rcases hfinal with hvalid | ⟨hfinal, -⟩
        · exact absurd hvalid hbroken
        · rw [hfinal] at hinvalid
          exact absurd hinvalid.1 Bool.false_ne_true
      | displaced hfinal hstaging hvalid =>
        rw [hfinal] at hinvalid
        exact absurd hinvalid.1 Bool.false_ne_true
      | replacing hfinal hstaging hvalid => exact ⟨hstaging, hvalid⟩
      | cleaning hfinal hstaging hplain => exact absurd hfinal hbroken
    have hunambiguous : ¬(¬survey.priorValid = true ∨ survey.stagingPresent = true) := by
      rw [hsurvey.stagingPresent, hreplacing.1, hpriorValid hreplacing.2]
      decide
    have hthere := hrecoverable.plain.1.there (by
      intro hnone
      rw [hnone] at hinvalid
      exact absurd hinvalid.1 Bool.false_ne_true)
    refine (succeeds_refuse hunambiguous).bind fun _ =>
      ((@succeeds_restorePrior rendering held).at ⟨hthere, hreplacing⟩).bind fun _ => ?_
    exact (succeeds_validate .final fun r hr => hr.1).weaken (fun _ h => h) fun _ _ h => h.2
  next hvalid =>
    refine (succeeds_settleReports hrecoverable hsurvey ?_ hprior).bind fun _ =>
      succeeds_checkSettled
    intro hpresent
    apply hsurvey.finalValid
    rw [← hsurvey.finalPresent] at hpresent
    cases hfinal : survey.finalValid with
    | true => rfl
    | false => exact absurd ⟨hpresent, by rw [hfinal]; exact Bool.false_ne_true⟩ hvalid

end Historian
