import Historian.Interruption
import Historian.ReportBundle

namespace Historian

open Wire Checks Interruption

/-- The three names that a bundle goes through. -/
inductive ReportName where
  | final | staging | prior
  deriving DecidableEq

inductive ReportEntry where
  | directory (files : Directory)
  | other
  deriving DecidableEq

/-- The directory of the reports: its entries under the three names, and the names of all others. -/
structure Reports where
  final : Option ReportEntry
  staging : Option ReportEntry
  prior : Option ReportEntry
  strangers : List Text
  deriving DecidableEq

namespace Reports

def entry (reports : Reports) : ReportName → Option ReportEntry
  | .final => reports.final
  | .staging => reports.staging
  | .prior => reports.prior

def put (reports : Reports) (name : ReportName) (entry : Option ReportEntry) : Reports :=
  match name with
  | .final => { reports with final := entry }
  | .staging => { reports with staging := entry }
  | .prior => { reports with prior := entry }

def createFile (reports : Reports) (name : ReportName) (file : Text) (bytes : Bytes) :
    Except EvidenceError Reports :=
  match reports.entry name with
  | some (.directory files) =>
    if files.any fun entry => entry.1 = file then .error .io
    else .ok (reports.put name (some (.directory (files ++ [(file, .file bytes)]))))
  | _ => .error .io

end Reports

/-- What interrupts a step: it fails, or the process stops. A file that was being written has the
first of its bytes or does not exist, and of a directory that was being removed some entries are
gone. -/
structure ReportFault where
  stops : Bool
  written : Option Nat
  unlinked : List Text

abbrev ReportRun := Run Reports ReportFault EvidenceError

/-- A step that reads. -/
def readStep {α : Type} (read : Reports → Except EvidenceError α) : ReportRun α :=
  Run.step ReportFault.stops (fun _ reports => reports) .io fun reports =>
    (read reports).map fun x => (x, reports)

/-- A step that changes the directory at once or not at all. -/
def changeStep (change : Reports → Except EvidenceError Reports) : ReportRun Unit :=
  Run.step ReportFault.stops (fun _ reports => reports) .io fun reports =>
    (change reports).map fun reports => ((), reports)

def createDir (name : ReportName) : ReportRun Unit :=
  changeStep fun reports =>
    match reports.entry name with
    | none => .ok (reports.put name (some (.directory [])))
    | some _ => .error .io

def writeFile (name : ReportName) (file : Text) (bytes : Bytes) : ReportRun Unit :=
  Run.step ReportFault.stops
    (fun fault reports =>
      match fault.written with
      | none => reports
      | some length => ((reports.createFile name file (bytes.take length)).toOption).getD reports)
    .io fun reports => (reports.createFile name file bytes).map fun reports => ((), reports)

def syncFile (name : ReportName) (file : Text) : ReportRun Unit :=
  readStep fun reports =>
    match reports.entry name with
    | some (.directory files) => refuse (¬files.any fun entry => entry.1 = file) .io
    | _ => .error .io

def syncDirectory (name : ReportName) : ReportRun Unit :=
  readStep fun reports => refuse (reports.entry name = none) .io

def syncReports : ReportRun Unit := readStep fun _ => .ok ()

def rename (source target : ReportName) : ReportRun Unit :=
  changeStep fun reports =>
    match reports.entry source, reports.entry target with
    | some moved, none | some moved, some (.directory []) =>
      .ok ((reports.put source none).put target (some moved))
    | _, _ => .error .io

def removeDirectory (name : ReportName) : ReportRun Unit :=
  Run.step ReportFault.stops
    (fun fault reports =>
      match reports.entry name with
      | some (.directory files) =>
        reports.put name (some (.directory (files.filter fun entry => entry.1 ∉ fault.unlinked)))
      | _ => reports)
    .io fun reports =>
      match reports.entry name with
      | some (.directory _) => .ok ((), reports.put name none)
      | _ => .error .io

def renameAndSync (source target : ReportName) : ReportRun Unit := do
  rename source target
  syncReports

def removeAndSync (name : ReportName) : ReportRun Unit := do
  removeDirectory name
  syncReports

def checkedReportDirectory (name : ReportName) : ReportRun Bool :=
  readStep fun reports =>
    match reports.entry name with
    | some (.directory _) => .ok true
    | some .other => .error .unsafeInventory
    | none => .ok false

def whenPresent (name : ReportName) (run : ReportRun Unit) : ReportRun Unit := do
  if ← checkedReportDirectory name then
    run

variable (rendering : Rendering)

def validateBundlePath (name : ReportName) : ReportRun Unit :=
  readStep fun reports =>
    match reports.entry name with
    | some (.directory files) => validateDirectory rendering files
    | _ => .error .io

def bundlePathIsValid (name : ReportName) : ReportRun Bool :=
  (do
    validateBundlePath rendering name
    pure true).rescue fun _ => pure false

/-- A bundle that is there and valid. -/
def presentIsValid (present : Bool) (name : ReportName) : ReportRun Bool :=
  if present then bundlePathIsValid rendering name else pure false

def prepareReports : ReportRun Unit :=
  readStep fun reports => refuse (reports.strangers ≠ [] ∨ reports.final = some .other ∨
    reports.staging = some .other ∨ reports.prior = some .other) .unsafeInventory

/-- What a reconciliation finds. -/
structure ReportSurvey where
  finalPresent : Bool
  stagingPresent : Bool
  priorPresent : Bool
  finalValid : Bool
  priorValid : Bool

def surveyReports : ReportRun ReportSurvey := do
  let finalPresent ← checkedReportDirectory .final
  let stagingPresent ← checkedReportDirectory .staging
  let priorPresent ← checkedReportDirectory .prior
  Run.lift (refuse (finalPresent ∧ stagingPresent ∧ priorPresent) .unsafeInventory)
  let finalValid ← presentIsValid rendering finalPresent .final
  let priorValid ← presentIsValid rendering priorPresent .prior
  pure ⟨finalPresent, stagingPresent, priorPresent, finalValid, priorValid⟩

/-- A final that is not valid gives way to the prior. -/
def restorePrior : ReportRun Unit := do
  removeAndSync .final
  renameAndSync .prior .final

def settleReports (preferPrior : Bool) (survey : ReportSurvey) : ReportRun Unit :=
  match survey.finalPresent, survey.stagingPresent, survey.priorPresent with
  | true, false, true => if preferPrior then restorePrior else removeAndSync .prior
  | false, true, true => do
    removeAndSync .staging
    renameAndSync .prior .final
  | false, false, true => renameAndSync .prior .final
  | _, true, false => removeAndSync .staging
  | _, false, false => pure ()
  | true, true, true => pure () -- the survey has refused it

def checkSettled : ReportRun Unit := do
  whenPresent .final (validateBundlePath rendering .final)
  if ← checkedReportDirectory .staging then
    Run.lift (.error .invalidHarness)
  else if ← checkedReportDirectory .prior then
    Run.lift (.error .invalidHarness)

def reconcileReportTransaction (preferPrior : Bool) : ReportRun Unit := do
  let survey ← surveyReports rendering
  Run.lift (refuse (survey.priorPresent ∧ ¬survey.priorValid) .unsafeInventory)
  if survey.finalPresent ∧ ¬survey.finalValid then
    Run.lift (refuse (¬survey.priorValid ∨ survey.stagingPresent) .unsafeInventory)
    restorePrior
    validateBundlePath rendering .final
  else
    settleReports preferPrior survey
    checkSettled rendering

def writeFiles : BundleFiles → ReportRun Unit
  | [] => pure ()
  | (name, bytes) :: rest => do
    writeFile .staging name bytes
    syncFile .staging name
    writeFiles rest

def stageBundle (bundle : BundleFiles) : ReportRun Unit := do
  createDir .staging
  syncReports
  writeFiles bundle
  syncDirectory .staging
  validateBundlePath rendering .staging

def publishReportBundle (bundle : BundleFiles) : ReportRun Unit := do
  stageBundle rendering bundle
  whenPresent .final (renameAndSync .final .prior)
  renameAndSync .staging .final
  validateBundlePath rendering .final
  whenPresent .prior (removeAndSync .prior)
  validateBundlePath rendering .final

/-- A failed publication is rolled back, and where that fails too nothing can be said. -/
def rollBack (primary : EvidenceError) : ReportRun Unit := do
  (reconcileReportTransaction rendering true).rescue fun _ => Run.lift (.error .replan)
  Run.lift (.error primary)

def writeAndValidate : ReportRun ReportSummary := do
  let bundle ← Run.lift rendering.bundle
  Run.lift (validateBundleBytes rendering bundle)
  prepareReports
  reconcileReportTransaction rendering false
  (publishReportBundle rendering bundle).rescue (rollBack rendering)
  Run.lift (summary bundle)

end Historian
