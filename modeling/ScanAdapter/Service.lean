import ScanAdapter.Store.Basic
import ScanAdapter.Trivy.Normalized
import ScanAdapter.Report.Basic
import ScanAdapter.Json.Writer

/-!
# The scan service

A job is submitted, run and looked at. A run moves it from queued to pending, scans, and leaves it finished
with a report, or failed with the message of what went wrong.

| here | there |
| --- | --- |
| `submit`, `run`, `getReport` | `ScanService.submit`, `run`, `get_report` |
| `scanAndRecord`, `recordFailure` | the attempt that `run` makes, and its handler |
-/
namespace ScanAdapter

structure Service where
  store : JobStore
  scanner : Scanner
  deriving DecidableEq, Repr

namespace Service

def line (level : LogLevel) (id message : String) : LogLine :=
  ⟨level, .scanService, s!"[job_id={id}] {message}"⟩

def submit (s : Service) (id : String) : Program ScanJob := do
  let job := ScanJob.queued id
  s.store.create job none
  .log (line .info id "Submitted scan job.")
  pure job

/-- Scan, and record the report and the end of the job. -/
def scanAndRecord (s : Service) (id : String) (artifact : Artifact) : Program ScanReport := do
  let vulnerabilities ← Program.scan
  let report ← Trivy.transform s.scanner artifact vulnerabilities
  let _ ← s.store.updateReport id report none
  let _ ← s.store.updateStatus id .finished none none
  pure report

/-- Record that a job failed, and fail. -/
def recordFailure (s : Service) (id : String) (f : Failure) : Program ScanReport := do
  .log (line .error id s!"Scan job failed: {f.text}")
  let _ ← s.store.updateStatus id .failed (some f.text) none
  .fail f

/-- Run a job. Only a cancelled run leaves no record of its failure. -/
def run (s : Service) (id : String) (artifact : Artifact) : Program ScanReport := do
  let _ ← s.store.updateStatus id .pending none none
  .log (line .info id
    s!"Started scan job. repository={artifact.repository} digest={artifact.digest}")
  (s.scanAndRecord id artifact).andThen fun
    | .value report =>
      let statistics := report.statistics.toJson.literal
      .note (line .info id s!"Completed scan job. stats={statistics}") (pure report)
    | .failed f => if f.isCancellation then .fail f else s.recordFailure id f
    | .silent => .done .silent

/-- The report of a job, if there is a job and it has one. -/
def getReport (s : Service) (id : String) : Program (Option ScanReport) := do
  let job ← s.store.get id none
  pure (job.bind (·.report))

end Service

end ScanAdapter
