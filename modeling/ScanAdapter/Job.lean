import ScanAdapter.Report.Wire
import ScanAdapter.Validation.Summary

/-!
# Scan jobs

The record kept for a scan: where it stands, the error it failed with, and the report it brought. A
record is stored as JSON text and checked whenever it is read.

| here | there |
| --- | --- |
| `JobStatus`, `ScanJob` | `ScanJobStatus`, `ScanJob` |
| `encode`, `decode` | `ScanJob.encode`, `ScanJob.decode` |
-/
namespace ScanAdapter

inductive JobStatus
  | queued
  | pending
  | finished
  | failed
  deriving DecidableEq, Repr

namespace JobStatus

def all : List JobStatus := [queued, pending, finished, failed]

def text : JobStatus → String
  | queued => "Queued"
  | pending => "Pending"
  | finished => "Finished"
  | failed => "Failed"

def ofText? (s : String) : Option JobStatus := all.find? fun v => v.text == s

theorem ofText?_text (v : JobStatus) : ofText? v.text = some v := by cases v <;> decide

def read : Json → Validated JobStatus
  | .string s =>
    match ofText? s with
    | some v => .accepted v
    | none => unlisted
  | _ => unlisted
where
  unlisted : Validated JobStatus := .refuse (.notListed "'Queued', 'Pending', 'Finished' or 'Failed'")

end JobStatus

structure ScanJob where
  id : String
  status : JobStatus
  error : Option String
  report : Option ScanReport
  deriving Repr

namespace ScanJob

/-- A job that has been asked for and not begun. -/
def queued (id : String) : ScanJob := ⟨id, .queued, none, none⟩

open Validated in
def read (origin : Origin) : Json → Validated ScanJob :=
  model "ScanJob" fun ms => ScanJob.mk
    <$> (FieldName.plain "id").required text ms
    <*> (FieldName.plain "status").orElse .queued JobStatus.read ms
    <*> (FieldName.plain "error").orElse none (optional text) ms
    <*> (FieldName.plain "report").orElse none (optional (ScanReport.read origin)) ms

def toJson (j : ScanJob) : Json :=
  .object [("id", .string j.id), ("status", .string j.status.text), ("error", .optionalString j.error),
    ("report", (j.report.map ScanReport.toJson).getD .null)]

/-- The stored text of a job. -/
def encode (j : ScanJob) : Except Json.WriteFault String :=
  j.toJson.renderUnless (j.report.bind ScanReport.fault?)

/-- The job that a stored text holds. -/
def decode (text : String) : Except Refusal ScanJob := Refusal.ofJsonText "ScanJob" (read .text) text

end ScanJob

end ScanAdapter
