import Historian.ReportConvergence

namespace Historian

open Wire Checks Interruption Run SortedMap

variable {rendering : Rendering} {held : Prop} {reports : Reports} {bundle : BundleFiles}

/-- What a publication has left of the other names while it stages its bundle. -/
def StagedReports (rendering : Rendering) (held : Prop) (staging : Option ReportEntry)
    (reports : Reports) : Prop :=
  (IsValid rendering reports.final ∨ reports.final = none ∧ ¬held) ∧
    reports.staging = staging ∧ reports.prior = none

theorem any_stagedEntry {front : BundleFiles} {name : Text}
    (h : ∀ file ∈ front, file.1 ≠ name) :
    ((front.map stagedEntry).any fun entry => entry.1 = name) = false := by
  rw [List.any_eq_false]
  intro entry hentry
  obtain ⟨file, hfile, rfl⟩ := List.mem_map.mp hentry
  rw [decide_eq_true_eq]
  exact h file hfile

/-- The files of a bundle are staged one after the other. -/
theorem succeeds_writeFiles {front : BundleFiles} (hordered : Ordered textLt (front ++ bundle)) :
    Succeeds (StagedReports rendering held (some (.directory (front.map stagedEntry))))
      (writeFiles bundle)
      (fun _ => StagedReports rendering held
        (some (.directory ((front ++ bundle).map stagedEntry)))) := by
  induction bundle generalizing front with
  | nil =>
    rw [List.append_nil]
    exact succeeds_pure fun _ h => h
  | cons file rest ih =>
    obtain ⟨name, bytes⟩ := file
    have hfresh : ∀ file ∈ front, file.1 ≠ name := by
      intro file hfile heq
      have hlt := (List.pairwise_append.mp hordered).2.2 file hfile (name, bytes)
        List.mem_cons_self
      rw [heq, textLt_irrefl] at hlt
      cases hlt
    have hsplit : front ++ (name, bytes) :: rest = (front ++ [(name, bytes)]) ++ rest := by
      rw [List.append_assoc]
      rfl
    have hwrite : Succeeds
        (StagedReports rendering held (some (.directory (front.map stagedEntry))))
        (writeFile .staging name bytes) (fun _ => StagedReports rendering held
          (some (.directory ((front ++ [(name, bytes)]).map stagedEntry)))) := by
      apply succeeds_step
      intro r hr
      obtain ⟨hfinal, hstaging, hprior⟩ := hr
      have hcreate : r.createFile .staging name bytes = .ok (r.put .staging
          (some (.directory (front.map stagedEntry ++ [(name, .file bytes)])))) := by
        unfold Reports.createFile
        rw [Reports.entry_staging, hstaging]
        dsimp only
        rw [any_stagedEntry hfresh, if_neg Bool.false_ne_true]
      refine ⟨(), _, congrArg (Except.map fun reports => ((), reports)) hcreate, hfinal, ?_, hprior⟩
      rw [List.map_append]
      rfl
    have hsync : Succeeds (StagedReports rendering held
        (some (.directory ((front ++ [(name, bytes)]).map stagedEntry))))
        (syncFile .staging name) (fun _ => StagedReports rendering held
          (some (.directory ((front ++ [(name, bytes)]).map stagedEntry)))) := by
      apply succeeds_read
      intro r hr
      refine ⟨(), ?_, hr⟩
      rw [Reports.entry_staging, hr.2.1]
      simp [stagedEntry, refuse]
    rw [hsplit] at hordered ⊢
    exact hwrite.bind fun _ => hsync.bind fun _ => ih hordered

theorem succeeds_stageBundle (h : rendering.Accepts bundle) :
    Succeeds (SettledReports rendering held) (stageBundle rendering bundle)
      (fun _ => StagedReports rendering held (some (.directory (bundle.map stagedEntry)))) := by
  have hcreate : Succeeds (SettledReports rendering held) (createDir .staging)
      (fun _ => StagedReports rendering held (some (.directory []))) := by
    apply succeeds_change
    intro r hr
    refine ⟨r.put .staging (some (.directory [])), ?_, hr.final, rfl, hr.prior⟩
    rw [Reports.entry_staging, hr.staging]
  have hsync : Succeeds (StagedReports rendering held (some (.directory (bundle.map stagedEntry))))
      (syncDirectory .staging)
      (fun _ => StagedReports rendering held (some (.directory (bundle.map stagedEntry)))) := by
    apply succeeds_read
    intro r hr
    refine ⟨(), refuse_ok.mpr ?_, hr⟩
    rw [Reports.entry_staging, hr.2.1]
    exact Option.some_ne_none _
  unfold stageBundle
  refine hcreate.bind fun _ => succeeds_syncReports.bind fun _ => ?_
  refine Succeeds.bind (@succeeds_writeFiles rendering held bundle []
    (rendering.ordered bundle h.built)) fun _ => ?_
  refine hsync.bind fun _ => succeeds_validate .staging fun r hr => ?_
  exact ⟨_, hr.2.1, h.validateDirectory⟩

/-- A publication that nothing interrupts succeeds. -/
theorem succeeds_publish (h : rendering.Accepts bundle) :
    Succeeds (SettledReports rendering held) (publishReportBundle rendering bundle)
      (fun _ => PublishedReports rendering) := by
  have hplain : ∀ r, BuildingReports rendering held r ∧ IsValid rendering r.staging →
      IsPlain r.final := fun r hr => hr.1.recoverable.plain.1
  have hdisplace : Succeeds
      (fun r => BuildingReports rendering held r ∧ IsValid rendering r.staging)
      (whenPresent .final (renameAndSync .final .prior)) (fun _ _ => True) := by
    refine succeeds_whenPresent .final hplain ?_ fun _ _ _ => trivial
    exact succeeds_rename .final .prior (fun r hr => ⟨hr.2, hr.1.1.prior⟩) fun _ _ => trivial
  have hpromote : Succeeds
      (fun r => r.final = none ∧ IsValid rendering r.staging ∧
        (IsValid rendering r.prior ∨ r.prior = none ∧ ¬held))
      (renameAndSync .staging .final) (fun _ _ => True) :=
    succeeds_rename .staging .final (fun r hr => ⟨hr.2.1.ne_none, hr.1⟩) fun _ _ => trivial
  have hdrop : Succeeds
      (fun r => IsValid rendering r.final ∧ r.staging = none ∧ IsPlain r.prior)
      (whenPresent .prior (removeAndSync .prior)) (fun _ => PublishedReports rendering) := by
    refine succeeds_whenPresent .prior (fun r hr => hr.2.2) ?_ ?_
    · refine succeeds_remove .prior (fun r hr => hr.1.2.2.there hr.2) ?_
      intro r hr
      exact ⟨hr.1.1, hr.1.2.1, rfl⟩
    · intro r hr hnone
      exact ⟨hr.1, hr.2.1, hnone⟩
  unfold publishReportBundle
  refine ((succeeds_stageBundle h).and_keeps (keeps_stageBundle bundle)).bind fun _ => ?_
  refine Succeeds.bind ((hdisplace.and_keeps keeps_displaceFinal).weaken (fun r hr => hr.2)
    (fun _ _ h => h.2)) fun _ => ?_
  refine Succeeds.bind ((hpromote.and_keeps keeps_promote).weaken (fun _ h => h)
    (fun _ _ h => h.2)) fun _ => ?_
  refine (succeeds_validate .final fun r hr => hr.1).bind fun _ => hdrop.bind fun _ => ?_
  exact succeeds_validate .final fun r hr => hr.final

/-- What the next run needs: a report with a bundle, no strange names, and a prior that is missing
or valid. -/
structure Recovers (rendering : Rendering) (reports : Reports) : Prop where
  accepts : ∃ bundle, rendering.Accepts bundle
  strangers : reports.strangers = []
  prior : reports.prior.isSome = true → IsValid rendering reports.prior

theorem RecoverableReports.prepared (h : RecoverableReports rendering held reports)
    (hstrangers : reports.strangers = []) :
    Succeeds (· = reports) prepareReports (fun _ => (· = reports)) := by
  obtain ⟨hfinal, hstaging, hprior⟩ := h.plain
  apply succeeds_read
  intro r hr
  subst hr
  refine ⟨(), refuse_ok.mpr ?_, rfl⟩
  intro hrefused
  rcases hrefused with hstrange | hother | hother | hother
  · exact hstrange hstrangers
  · exact hfinal hother
  · exact hstaging hother
  · exact hprior hother

/-- A run that nothing interrupts publishes its bundle. -/
theorem succeeds_writeAndValidate : Succeeds
    (fun r => RecoverableReports rendering held r ∧ Recovers rendering r)
    (writeAndValidate rendering) (fun _ => PublishedReports rendering) := by
  refine succeeds_each fun r hr => ?_
  obtain ⟨hrecoverable, ⟨bundle, haccepts⟩, hstrangers, hprior⟩ := hr
  obtain ⟨result, hsummary⟩ := haccepts.summary
  unfold writeAndValidate
  refine (succeeds_lift haccepts.built).bind fun built => succeeds_assume fun hbuilt => ?_
  subst hbuilt
  refine Succeeds.bind ((succeeds_lift haccepts.valid).weaken (fun _ h => h) fun _ _ h => h.1)
    fun _ => (hrecoverable.prepared hstrangers).bind fun _ => ?_
  refine (succeeds_reconcile.at ⟨hrecoverable, hprior⟩).bind fun _ => ?_
  refine (succeeds_publish haccepts).rescue.bind fun _ => ?_
  exact (succeeds_lift hsummary).weaken (fun _ h => h) fun _ _ h => h.1

/-- A run that returns has found what it needs. -/
theorem keeps_recovers (h : RecoverableReports rendering held reports) :
    Keeps (· = reports) (writeAndValidate rendering)
      (fun _ _ => Recovers rendering reports) (fun _ => True) := by
  have hlift {α : Type} {r : Except EvidenceError α} : Keeps (· = reports)
      (Run.lift r : ReportRun α) (fun x s => s = reports ∧ r = .ok x) (fun _ => True) := by
    apply keeps_lift
    intro s hs
    cases r with
    | error e => trivial
    | ok x => exact ⟨hs, rfl⟩
  have hbehind {α : Type} {pre : Reports → Prop} {run : ReportRun α}
      (hrecovers : Recovers rendering reports) :
      Keeps pre run (fun _ _ => Recovers rendering reports) (fun _ => True) := by
    intro s script _
    cases run s script with
    | mk ending rest =>
      cases ending with
      | returned x => exact hrecovers
      | refused e => trivial
      | stopped => trivial
  unfold writeAndValidate
  refine hlift.bind fun bundle => keeps_assume fun hbuilt => ?_
  refine hlift.bind fun _ => keeps_assume fun hvalid => ?_
  have hprepare : Keeps (· = reports) prepareReports
      (fun _ r => r = reports ∧ reports.strangers = []) (fun _ => True) := by
    refine (keeps_read fun _ _ => trivial).weaken (fun _ h => h) ?_ fun _ h => h
    intro _ r hr
    obtain ⟨rfl, hprepared⟩ := hr
    rw [refuse_ok, not_or, not_not] at hprepared
    exact ⟨rfl, hprepared.1⟩
  refine hprepare.bind fun _ => keeps_assume fun hstrangers => ?_
  -- what the reconciliation checks of the prior is what the next run needs
  have hreconcile : Keeps (· = reports) (reconcileReportTransaction rendering false)
      (fun _ _ => Recovers rendering reports) (fun _ => True) := by
    refine (keeps_survey trivial).bind fun survey => keeps_assume fun hsurvey => ?_
    refine (keeps_refuse trivial).bind fun _ => keeps_assume fun hrefused => ?_
    refine hbehind ⟨⟨bundle, hbuilt, hvalid⟩, hstrangers, ?_⟩
    intro hpresent
    apply hsurvey.priorValid
    rw [← hsurvey.priorPresent] at hpresent
    cases hvalid : survey.priorValid with
    | true => rfl
    | false => exact absurd ⟨hpresent, by rw [hvalid]; exact Bool.false_ne_true⟩ hrefused
  refine hreconcile.bind fun _ => keeps_each fun r hr => hbehind hr

/-- The states that runs leave, however they are interrupted. -/
inductive Interrupted (rendering : Rendering) (start : Reports) : Reports → Prop
  | start : Interrupted rendering start start
  | run {r : Reports} (script : List (Option ReportFault)) (h : Interrupted rendering start r) :
      Interrupted rendering start (writeAndValidate rendering r script).2.1

theorem Interrupted.recoverable {start : Reports}
    (hstart : IsValid rendering start.final ∨ start.final = none) (hstaging : start.staging = none)
    (hprior : start.prior = none) (h : Interrupted rendering start reports) :
    RecoverableReports rendering (start.final ≠ none) reports := by
  induction h with
  | start =>
    refine .building ?_ (hstaging ▸ isPlain_none) hprior
    rcases hstart with hvalid | hnone
    · exact .inl hvalid
    · exact .inr ⟨hnone, fun hne => hne hnone⟩
  | run script h ih =>
    have hrun := keeps_writeAndValidate _ script ih
    cases hended : writeAndValidate rendering _ script with
    | mk ending rest =>
      rw [hended] at hrun
      cases ending with
      | returned x => exact hrun.settled.recoverable
      | refused e => exact hrun
      | stopped => exact hrun

/-- A prior that has lost some of its files stops every later run. -/
theorem settles_refused (h : RecoverableReports rendering held reports)
    (haccepts : rendering.Accepts bundle) (hstrangers : reports.strangers = [])
    (hpresent : reports.prior.isSome = true) (hbroken : ¬IsValid rendering reports.prior) :
    Settles (writeAndValidate rendering) reports (.refused .unsafeInventory) reports := by
  obtain ⟨u, r, hprepare, heq⟩ := h.prepared hstrangers reports rfl
  obtain ⟨survey, r', hsurveyed, ⟨heq', hsurvey⟩, -⟩ := succeeds_survey h reports rfl
  subst heq heq'
  have hrefused : refuse (survey.priorPresent = true ∧ ¬survey.priorValid = true)
      EvidenceError.unsafeInventory = .error .unsafeInventory := by
    rw [hsurvey.priorPresent]
    exact refuse_error.mpr ⟨⟨hpresent, fun hvalid => hbroken (hsurvey.priorValid hvalid)⟩, rfl⟩
  have hreconcile : Settles (reconcileReportTransaction rendering false) r'
      (.refused .unsafeInventory) r' :=
    hsurveyed.bind (Settles.bind_refused (settles_lift_refused hrefused))
  unfold writeAndValidate
  refine (settles_lift haccepts.built).bind ((settles_lift haccepts.valid).bind ?_)
  exact hprepare.bind hreconcile.bind_refused

/-- From whatever interrupted runs leave, a run that nothing interrupts publishes its bundle exactly
when the prior is missing or complete. A prior that has been removed in part makes it refuse, and
so every later one. But a bundle that was there is never lost. -/
theorem report_publication_converges_iff {start : Reports}
    (hstart : IsValid rendering start.final ∨ start.final = none) (hstaging : start.staging = none)
    (hprior : start.prior = none) (h : Interrupted rendering start reports) :
    ((∃ result after, Settles (writeAndValidate rendering) reports (.returned result) after ∧
      PublishedReports rendering after) ↔ Recovers rendering reports) ∧
    (rendering.Accepts bundle → reports.strangers = [] → reports.prior.isSome = true →
      ¬IsValid rendering reports.prior →
        Settles (writeAndValidate rendering) reports (.refused .unsafeInventory) reports) ∧
    (start.final ≠ none → IsValid rendering reports.final ∨ IsValid rendering reports.prior) := by
  have hrecoverable := h.recoverable hstart hstaging hprior
  refine ⟨?_, settles_refused hrecoverable, hrecoverable.has_valid⟩
  constructor
  · intro hconverges
    obtain ⟨result, after, hrun, -⟩ := hconverges
    have hkept := keeps_recovers hrecoverable reports [] rfl
    rw [hrun] at hkept
    exact hkept
  · intro hrecovers
    exact succeeds_writeAndValidate reports ⟨hrecoverable, hrecovers⟩

/-- Seven files of one line each. -/
def oneLineFiles : BundleFiles := dataFiles.map fun name => (name, [0x61, 0x0a])

def oneLineBundle : BundleFiles :=
  ("SHA256SUMS".toList, (checksumFile oneLineFiles).toOption.getD []) :: oneLineFiles

def oneLineRendering : Rendering where
  bundle := .ok oneLineBundle
  expected := .ok oneLineBundle
  ordered files h := by
    rw [← Except.ok.inj h]
    unfold Ordered
    decide +kernel

def oneLineReports : Reports :=
  ⟨some (.directory (oneLineBundle.map stagedEntry)), none, none, []⟩

/-- The process stops when one file of the prior is gone. -/
def halfRemoved : List (Option ReportFault) :=
  List.replicate 36 none ++ [some ⟨true, none, ["run.kv".toList]⟩]

/-- The process stops between the two renames. -/
def betweenRenames : List (Option ReportFault) :=
  List.replicate 31 none ++ [some ⟨true, none, []⟩]

/-- The bundle is valid, the run behind the first stop refuses, and the second stop leaves the prior
alone. They are one evaluation, which validates the bundle once. -/
theorem oneLine_runs :
    validateBundleBytes oneLineRendering oneLineBundle = .ok () ∧
      (writeAndValidate oneLineRendering
        (writeAndValidate oneLineRendering oneLineReports halfRemoved).2.1 []).1 =
          .refused .unsafeInventory ∧
      (writeAndValidate oneLineRendering oneLineReports betweenRenames).2.1.final = none ∧
      (writeAndValidate oneLineRendering oneLineReports betweenRenames).2.1.prior =
        oneLineReports.final ∧
      (writeAndValidate oneLineRendering oneLineReports betweenRenames).2.1.strangers = [] := by
  decide +kernel

theorem oneLine_accepts : oneLineRendering.Accepts oneLineBundle := ⟨rfl, oneLine_runs.1⟩

theorem oneLine_valid : IsValid oneLineRendering oneLineReports.final :=
  ⟨_, rfl, oneLine_accepts.validateDirectory⟩

/-- A run that was stopped while it removed the prior is not recovered by the next one. -/
theorem stopped_cleanup_is_not_recovered : ¬∀ rendering bundle start reports,
    rendering.Accepts bundle → start.strangers = [] → IsValid rendering start.final →
      start.staging = none → start.prior = none → Interrupted rendering start reports →
        ∃ result after, Settles (writeAndValidate rendering) reports (.returned result) after ∧
          PublishedReports rendering after := by
  intro h
  have hstopped := Interrupted.run halfRemoved (@Interrupted.start oneLineRendering oneLineReports)
  obtain ⟨result, after, hrun, -⟩ :=
    h _ _ _ _ oneLine_accepts rfl oneLine_valid rfl rfl hstopped
  obtain ⟨-, hrefused, -⟩ := oneLine_runs
  rw [hrun] at hrefused
  cases hrefused

/-- The run that was stopped left no bundle but a complete prior, and the next one publishes. -/
theorem report_publication_converges_iff_sample : ∃ reports result after,
    Interrupted oneLineRendering oneLineReports reports ∧
      reports.final = none ∧ reports.prior = oneLineReports.final ∧
      Settles (writeAndValidate oneLineRendering) reports (.returned result) after ∧
      PublishedReports oneLineRendering after := by
  obtain ⟨-, -, hfinal, hprior, hstrangers⟩ := oneLine_runs
  have hstopped := Interrupted.run betweenRenames
    (@Interrupted.start oneLineRendering oneLineReports)
  generalize (writeAndValidate oneLineRendering oneLineReports betweenRenames).2.1 = reports
    at hfinal hprior hstrangers hstopped
  have hrecovers : Recovers oneLineRendering reports :=
    ⟨⟨_, oneLine_accepts⟩, hstrangers, fun _ => hprior ▸ oneLine_valid⟩
  have hconverges := @report_publication_converges_iff oneLineRendering reports oneLineBundle
    oneLineReports (.inl oneLine_valid) rfl rfl hstopped
  obtain ⟨result, after, hsettles, hpublished⟩ := hconverges.1.mpr hrecovers
  exact ⟨reports, result, after, hstopped, hfinal, hprior, hsettles, hpublished⟩

end Historian
