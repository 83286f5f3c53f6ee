import ScanAdapter.Proofs.Store.Update
import Mathlib.Data.List.Induction

/-!
# A job after updates

Of the updates of a job, one after the other, the last one decides for each part of it: the last status, the last
error that was given, the last report. A stored job is the text of a job, and an update that starts from what the
text was decoded to leaves the text that it would leave if it started from the job itself.
-/
namespace ScanAdapter

namespace Update

def status? : Update → Option JobStatus
  | moveTo status _ => some status
  | attach _ => none

def error? : Update → Option String
  | moveTo _ error => error
  | attach _ => none

def report? : Update → Option ScanReport
  | moveTo _ _ => none
  | attach report => some report

theorem fault?_eq_none {u : Update} (h : ∀ report ∈ u.report?, report.fault? = none) : u.fault? = none := by
  cases u with
  | moveTo status error => rfl
  | attach report => exact h report rfl

end Update

namespace ScanJob

/-- The job after updates: its identity stays, the rest is what the last update that gives it has given. -/
def after (job : ScanJob) (us : List Update) : ScanJob where
  id := job.id
  status := (us.filterMap Update.status?).getLast?.getD job.status
  error := (us.filterMap Update.error?).getLast?.or job.error
  report := (us.filterMap Update.report?).getLast?.or job.report

@[simp] theorem after_nil (job : ScanJob) : job.after [] = job := rfl

@[simp] theorem after_id (job : ScanJob) (us : List Update) : (job.after us).id = job.id := rfl

/-- One update more changes the job as the update does. -/
theorem after_concat (job : ScanJob) (us : List Update) (u : Update) :
    job.after (us ++ [u]) = u.apply (job.after us) := by
  cases u with
  | moveTo status error =>
    cases error <;> simp [after, Update.apply, Update.status?, Update.error?, Update.report?]
  | attach report => simp [after, Update.apply, Update.status?, Update.error?, Update.report?]

/-! ## Names -/

/-- No object in the free-form data of the job repeats a name. -/
def NamesDiffer (job : ScanJob) : Prop := job.toJson.every Json.namesDiffer = true

end ScanJob

/-- No object in the free-form data of the report repeats a name. -/
def ScanReport.NamesDiffer (report : ScanReport) : Prop := report.toJson.every Json.namesDiffer = true

def Update.NamesDiffer (u : Update) : Prop := ∀ report ∈ u.report?, report.NamesDiffer

/-- The report is the only part of a job in which there is more than texts. -/
theorem ScanJob.every_toJson {p : Json → Bool} (hjob : ∀ id status error report : Json,
    p (.object [("id", id), ("status", status), ("error", error), ("report", report)]) = true)
    (htext : ∀ s, p (.string s) = true) (hnull : p .null = true) (job : ScanJob) :
    job.toJson.every p = true ↔ ∀ report ∈ job.report, report.toJson.every p = true := by
  obtain ⟨id, status, error, report⟩ := job
  cases error <;> cases report <;>
    simp [toJson, Json.every, Json.everyMember, Json.optionalString, hjob, htext, hnull]

theorem ScanJob.namesDiffer_iff {job : ScanJob} :
    job.NamesDiffer ↔ ∀ report ∈ job.report, report.NamesDiffer :=
  every_toJson (fun _ _ _ _ => by simp [Json.namesDiffer]) (fun _ => rfl) rfl job

/-- The report of a changed job is that of the job or that of the change. -/
theorem Update.forall_report_apply {P : ScanReport → Prop} {u : Update} {job : ScanJob}
    (hu : ∀ report ∈ u.report?, P report) (hjob : ∀ report ∈ job.report, P report) :
    ∀ report ∈ (u.apply job).report, P report := by
  cases u with
  | moveTo status error => exact hjob
  | attach report => exact hu

theorem Update.namesDiffer_apply {u : Update} {job : ScanJob} (hu : u.NamesDiffer) (hjob : job.NamesDiffer) :
    (u.apply job).NamesDiffer :=
  ScanJob.namesDiffer_iff.2 (forall_report_apply hu (ScanJob.namesDiffer_iff.1 hjob))

theorem ScanJob.namesDiffer_after {job : ScanJob} (hjob : job.NamesDiffer) {us : List Update}
    (hus : ∀ u ∈ us, u.NamesDiffer) : (job.after us).NamesDiffer := by
  induction us using List.reverseRecOn with
  | nil => exact hjob
  | append_singleton us u ih =>
    rw [after_concat]
    exact Update.namesDiffer_apply (hus u (by simp)) (ih fun v hv => hus v (by simp [hv]))

/-! ## Texts -/

theorem ScanJob.encode_eq_ok_iff {job : ScanJob} {text : String} :
    job.encode = .ok text ↔ job.report.bind ScanReport.fault? = none ∧ job.toJson.render = text := by
  unfold encode Json.renderUnless
  cases job.report.bind ScanReport.fault? with
  | none => simp
  | some f => simp

/-- What a stored job is decoded to, if it is, is the settled job. -/
theorem ScanJob.eq_settled_of_decode {job read : ScanJob} {text : String} (hnames : job.NamesDiffer)
    (hencode : job.encode = .ok text) (hdecode : decode text = .ok read) : read = job.settled := by
  obtain ⟨-, rfl⟩ := encode_eq_ok_iff.1 hencode
  obtain ⟨hok, hrefused⟩ := WireModel.decode_render .scanJob job hnames
  by_cases hreadable : (WireModel.toJson .scanJob job).isReadable Json.readDepth = true
  · have heq : decode job.toJson.render = .ok job.settled := hok hreadable
    rw [heq] at hdecode
    cases hdecode
    rfl
  · obtain ⟨r, hr⟩ := hrefused hreadable
    have heq : decode job.toJson.render = .error r := hr
    rw [heq] at hdecode
    cases hdecode

/-- To settle a job before an update makes no difference to the text after it. -/
theorem Update.render_apply_settled (u : Update) (job : ScanJob) :
    (u.apply job.settled).toJson.render = (u.apply job).toJson.render := by
  cases u with
  | moveTo status error =>
    have hreport : (((job.report.map ScanReport.settled).map ScanReport.toJson).getD .null).renderChars =
        ((job.report.map ScanReport.toJson).getD .null).renderChars := by
      cases job.report with
      | none => rfl
      | some r =>
        show r.settled.toJson.renderChars = _
        rw [r.toJson_settled, Json.renderChars_settled]
        rfl
    simp only [apply, ScanJob.settled, ScanJob.toJson, Json.render, Json.renderChars, Json.renderMembers, hreport]
  | attach report => rfl

/-- An update of what was decoded is written as the update of the job that was stored. -/
theorem Update.encode_apply {u : Update} {job read : ScanJob} {text written : String} (hnames : job.NamesDiffer)
    (hencode : job.encode = .ok text) (hdecode : ScanJob.decode text = .ok read)
    (hwritten : (u.apply read).encode = .ok written) : (u.apply job).encode = .ok written := by
  have hread := ScanJob.eq_settled_of_decode hnames hencode hdecode
  subst hread
  obtain ⟨hfault, -⟩ := ScanJob.encode_eq_ok_iff.1 hencode
  obtain ⟨hafter, rfl⟩ := ScanJob.encode_eq_ok_iff.1 hwritten
  have hu : u.fault? = none := by
    cases u with
    | moveTo status error => rfl
    | attach report => exact hafter
  rw [render_apply_settled]
  exact ScanJob.encode_of_fault? (u.fault?_apply hu hfault)

end ScanAdapter
