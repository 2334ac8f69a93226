import Historian.ReportTransaction

namespace Historian

open Wire Checks Interruption Run

/-- The entry is a directory with a valid bundle. -/
def IsValid (rendering : Rendering) (entry : Option ReportEntry) : Prop :=
  ∃ files, entry = some (.directory files) ∧ validateDirectory rendering files = .ok ()

/-- The entry is missing or a directory. -/
def IsPlain (entry : Option ReportEntry) : Prop := entry ≠ some .other

/-- What a publication can leave behind. With `held`, there was a bundle when it began. -/
inductive RecoverableReports (rendering : Rendering) (held : Prop) (reports : Reports) : Prop
  | building (hfinal : IsValid rendering reports.final ∨ reports.final = none ∧ ¬held)
      (hstaging : IsPlain reports.staging) (hprior : reports.prior = none)
  | displaced (hfinal : reports.final = none) (hstaging : IsPlain reports.staging)
      (hprior : IsValid rendering reports.prior)
  | replacing (hfinal : IsPlain reports.final) (hstaging : reports.staging = none)
      (hprior : IsValid rendering reports.prior)
  | cleaning (hfinal : IsValid rendering reports.final) (hstaging : reports.staging = none)
      (hprior : IsPlain reports.prior)

/-- Between two transactions. -/
structure SettledReports (rendering : Rendering) (held : Prop) (reports : Reports) : Prop where
  final : IsValid rendering reports.final ∨ reports.final = none ∧ ¬held
  staging : reports.staging = none
  prior : reports.prior = none

/-- Behind a transaction: one valid bundle and nothing else. -/
structure PublishedReports (rendering : Rendering) (reports : Reports) : Prop where
  final : IsValid rendering reports.final
  staging : reports.staging = none
  prior : reports.prior = none

theorem isPlain_none : IsPlain none := by
  intro h
  cases h

theorem isPlain_directory (files : Directory) : IsPlain (some (.directory files)) := by
  intro h
  cases h

theorem IsPlain.cases {entry : Option ReportEntry} (h : IsPlain entry) :
    entry = none ∨ ∃ files, entry = some (.directory files) := by
  rcases entry with _ | files | _
  · exact .inl rfl
  · exact .inr ⟨files, rfl⟩
  · exact absurd rfl h

theorem IsValid.isPlain {rendering : Rendering} {entry : Option ReportEntry}
    (h : IsValid rendering entry) : IsPlain entry := by
  obtain ⟨files, rfl, -⟩ := h
  exact isPlain_directory files

theorem not_isValid_none {rendering : Rendering} : ¬IsValid rendering none := by
  intro h
  obtain ⟨files, heq, -⟩ := h
  cases heq

namespace Reports

@[simp] theorem entry_final (reports : Reports) : reports.entry .final = reports.final := rfl

@[simp] theorem entry_staging (reports : Reports) : reports.entry .staging = reports.staging := rfl

@[simp] theorem entry_prior (reports : Reports) : reports.entry .prior = reports.prior := rfl

@[simp] theorem put_final (reports : Reports) (entry : Option ReportEntry) :
    reports.put .final entry = { reports with final := entry } := rfl

@[simp] theorem put_staging (reports : Reports) (entry : Option ReportEntry) :
    reports.put .staging entry = { reports with staging := entry } := rfl

@[simp] theorem put_prior (reports : Reports) (entry : Option ReportEntry) :
    reports.put .prior entry = { reports with prior := entry } := rfl

end Reports

variable {rendering : Rendering} {held : Prop} {reports : Reports}

theorem SettledReports.recoverable (h : SettledReports rendering held reports) :
    RecoverableReports rendering held reports :=
  .building h.final (h.staging ▸ isPlain_none) h.prior

theorem PublishedReports.settled (h : PublishedReports rendering reports) :
    SettledReports rendering held reports :=
  ⟨.inl h.final, h.staging, h.prior⟩

theorem RecoverableReports.plain (h : RecoverableReports rendering held reports) :
    IsPlain reports.final ∧ IsPlain reports.staging ∧ IsPlain reports.prior := by
  cases h with
  | building hfinal hstaging hprior =>
    refine ⟨?_, hstaging, hprior ▸ isPlain_none⟩
    rcases hfinal with hvalid | ⟨hnone, -⟩
    · exact hvalid.isPlain
    · exact hnone ▸ isPlain_none
  | displaced hfinal hstaging hprior => exact ⟨hfinal ▸ isPlain_none, hstaging, hprior.isPlain⟩
  | replacing hfinal hstaging hprior => exact ⟨hfinal, hstaging ▸ isPlain_none, hprior.isPlain⟩
  | cleaning hfinal hstaging hprior => exact ⟨hfinal.isPlain, hstaging ▸ isPlain_none, hprior⟩

/-- A bundle that was there is never lost. -/
theorem RecoverableReports.has_valid (h : RecoverableReports rendering held reports)
    (hheld : held) :
    IsValid rendering reports.final ∨ IsValid rendering reports.prior := by
  cases h with
  | building hfinal hstaging hprior =>
    rcases hfinal with hvalid | ⟨-, hnot⟩
    · exact .inl hvalid
    · exact absurd hheld hnot
  | displaced hfinal hstaging hprior => exact .inr hprior
  | replacing hfinal hstaging hprior => exact .inr hprior
  | cleaning hfinal hstaging hprior => exact .inl hfinal

section Steps

variable {α : Type} {pre crash : Reports → Prop}

/-- A step that reads changes nothing, and its answer is about the state that is there. -/
theorem keeps_read {read : Reports → Except EvidenceError α} (hcrash : ∀ r, pre r → crash r) :
    Keeps pre (readStep read) (fun x r => pre r ∧ read r = .ok x) crash := by
  apply keeps_step
  · intro fault r hr
    exact hcrash r hr
  · intro r hr
    cases hread : read r with
    | error e => exact hcrash r hr
    | ok x => exact ⟨hr, hread⟩

theorem keeps_change {change : Reports → Except EvidenceError Reports} {post : Reports → Prop}
    (hcrash : ∀ r, pre r → crash r) (hchange : ∀ r r', pre r → change r = .ok r' → post r') :
    Keeps pre (changeStep change) (fun _ => post) crash := by
  apply keeps_step
  · intro fault r hr
    exact hcrash r hr
  · intro r hr
    cases hr' : change r with
    | error e => exact hcrash r hr
    | ok r' => exact hchange r r' hr hr'

theorem keeps_syncReports (hcrash : ∀ r, pre r → crash r) :
    Keeps pre syncReports (fun _ => pre) crash :=
  (keeps_read hcrash).weaken (fun _ h => h) (fun _ _ h => h.1) fun _ h => h

/-- While a directory is removed, some of its entries are left. -/
theorem keeps_remove {post : Reports → Prop} (name : ReportName) (hcrash : ∀ r, pre r → crash r)
    (hleft : ∀ r files, pre r → r.entry name ≠ none →
      crash (r.put name (some (.directory files))))
    (hgone : ∀ r, pre r → post (r.put name none)) (hpost : ∀ r, post r → crash r) :
    Keeps pre (removeAndSync name) (fun _ => post) crash := by
  unfold removeAndSync removeDirectory
  refine Keeps.bind (keeps_step ?_ ?_) fun _ => keeps_syncReports hpost
  · intro fault r hr
    cases hentry : r.entry name with
    | none => exact hcrash r hr
    | some entry =>
      cases entry with
      | directory files =>
        refine hleft r _ hr ?_
        rw [hentry]
        exact Option.some_ne_none _
      | other => exact hcrash r hr
  · intro r hr
    cases hentry : r.entry name with
    | none => exact hcrash r hr
    | some entry =>
      cases entry with
      | directory files => exact hgone r hr
      | other => exact hcrash r hr

theorem keeps_rename {post : Reports → Prop} (source target : ReportName)
    (hcrash : ∀ r, pre r → crash r)
    (hmoved : ∀ r, pre r → post ((r.put source none).put target (r.entry source)))
    (hpost : ∀ r, post r → crash r) :
    Keeps pre (renameAndSync source target) (fun _ => post) crash := by
  unfold renameAndSync rename
  refine Keeps.bind (keeps_change hcrash ?_) fun _ => keeps_syncReports hpost
  intro r r' hr hr'
  have hpost := hmoved r hr
  split at hr'
  next moved hsource _ =>
    rw [hsource] at hpost
    exact Except.ok.inj hr' ▸ hpost
  next moved hsource _ =>
    rw [hsource] at hpost
    exact Except.ok.inj hr' ▸ hpost
  next => cases hr'

end Steps

section Survey

variable {crash : Reports → Prop}

theorem keeps_checked (name : ReportName) (hcrash : crash reports) :
    Keeps (· = reports) (checkedReportDirectory name)
      (fun present r => r = reports ∧ present = (reports.entry name).isSome) crash := by
  refine (keeps_read (fun r hr => hr ▸ hcrash)).weaken (fun _ h => h) ?_ fun _ h => h
  intro present r hread
  obtain ⟨rfl, hread⟩ := hread
  refine ⟨rfl, ?_⟩
  split at hread
  next hentry =>
    rw [hentry]
    exact (Except.ok.inj hread).symm
  next => cases hread
  next hentry =>
    rw [hentry]
    exact (Except.ok.inj hread).symm

theorem keeps_refuse {c : Prop} [Decidable c] {e : EvidenceError} (hcrash : crash reports) :
    Keeps (· = reports) (Run.lift (refuse c e) : ReportRun Unit) (fun _ r => r = reports ∧ ¬c)
      crash := by
  apply keeps_lift
  intro r hr
  unfold refuse
  by_cases hc : c
  · rw [if_pos hc]
    exact hr ▸ hcrash
  · rw [if_neg hc]
    exact ⟨hr, hc⟩

/-- A step that is left out when there is no such directory. -/
theorem keeps_whenPresent {pre post : Reports → Prop} {run : ReportRun Unit} (name : ReportName)
    (hcrash : ∀ r, pre r → crash r)
    (hrun : Keeps (fun r => pre r ∧ r.entry name ≠ none) run (fun _ => post) crash)
    (hskip : ∀ r, pre r → r.entry name = none → post r) :
    Keeps pre (whenPresent name run) (fun _ => post) crash := by
  unfold whenPresent
  refine keeps_each fun r hr => (keeps_checked name (hcrash r hr)).bind fun present =>
    keeps_assume fun hpresent => ?_
  cases present with
  | true =>
    have hentry : r.entry name ≠ none := by
      intro hnone
      rw [hnone] at hpresent
      cases hpresent
    exact hrun.at ⟨hr, hentry⟩
  | false =>
    apply keeps_pure
    intro r' hr'
    subst hr'
    refine hskip r' hr (Option.not_isSome_iff_eq_none.mp ?_)
    rw [← hpresent]
    exact Bool.false_ne_true

theorem keeps_validate (name : ReportName) (hcrash : crash reports) :
    Keeps (· = reports) (validateBundlePath rendering name)
      (fun _ r => r = reports ∧ IsValid rendering (reports.entry name)) crash := by
  refine (keeps_read (fun r hr => hr ▸ hcrash)).weaken (fun _ h => h) ?_ fun _ h => h
  intro _ r hread
  obtain ⟨rfl, hread⟩ := hread
  refine ⟨rfl, ?_⟩
  split at hread
  next files hentry => exact ⟨files, hentry, hread⟩
  next => cases hread

theorem keeps_isValid (name : ReportName) (hcrash : crash reports) :
    Keeps (· = reports) (bundlePathIsValid rendering name)
      (fun valid r => r = reports ∧ (valid = true → IsValid rendering (reports.entry name)))
      crash := by
  refine Keeps.weaken (@Keeps.rescue _ _ _ _ _ (· = reports) _ _ _ ?_ ?_) (fun _ h => h)
    (fun _ _ h => h)
    fun r hr => hr ▸ hcrash
  · refine Keeps.bind (keeps_validate name rfl) fun _ => keeps_pure ?_
    intro r hr
    exact ⟨hr.1, fun _ => hr.2⟩
  · intro _
    apply keeps_pure
    intro r hr
    exact ⟨hr, fun hfalse => absurd hfalse Bool.false_ne_true⟩

theorem keeps_presentIsValid (name : ReportName) (present : Bool) (hcrash : crash reports) :
    Keeps (· = reports) (presentIsValid rendering present name)
      (fun valid r => r = reports ∧ (valid = true → IsValid rendering (reports.entry name)))
      crash := by
  cases present with
  | true => exact keeps_isValid name hcrash
  | false =>
    apply keeps_pure
    intro r hr
    exact ⟨hr, fun hfalse => absurd hfalse Bool.false_ne_true⟩

/-- What a survey says of the reports. -/
structure SurveyedReports (rendering : Rendering) (reports : Reports) (survey : ReportSurvey) :
    Prop where
  finalPresent : survey.finalPresent = reports.final.isSome
  stagingPresent : survey.stagingPresent = reports.staging.isSome
  priorPresent : survey.priorPresent = reports.prior.isSome
  not_all : ¬(survey.finalPresent = true ∧ survey.stagingPresent = true ∧
    survey.priorPresent = true)
  finalValid : survey.finalValid = true → IsValid rendering reports.final
  priorValid : survey.priorValid = true → IsValid rendering reports.prior

theorem keeps_survey (hcrash : crash reports) :
    Keeps (· = reports) (surveyReports rendering)
      (fun survey r => r = reports ∧ SurveyedReports rendering reports survey) crash := by
  unfold surveyReports
  refine (keeps_checked .final hcrash).bind fun finalPresent => keeps_assume fun hfinal => ?_
  refine (keeps_checked .staging hcrash).bind fun stagingPresent => keeps_assume fun hstaging => ?_
  refine (keeps_checked .prior hcrash).bind fun priorPresent => keeps_assume fun hprior => ?_
  refine (keeps_refuse hcrash).bind fun _ => keeps_assume fun hnot => ?_
  refine (keeps_presentIsValid .final finalPresent hcrash).bind fun finalValid =>
    keeps_assume fun hfinalValid => ?_
  refine (keeps_presentIsValid .prior priorPresent hcrash).bind fun priorValid =>
    keeps_assume fun hpriorValid => ?_
  apply keeps_pure
  intro r hr
  exact ⟨hr, hfinal, hstaging, hprior, hnot, hfinalValid, hpriorValid⟩

end Survey

end Historian
