import ScanAdapter.Proofs.Store.Errors

/-!
# Records that cannot be read

The writer follows more levels of free-form data than the reader. A record that was written is read again if the reader
follows the free-form attributes of all findings of its report; otherwise the store has made a record that it takes for
corrupt, and the job can neither be read nor updated any more (`Trial.written_is_read_iff`).
-/
namespace ScanAdapter

/-! ## What the reader follows of a job -/

/-- The reader of a job, who comes to the attributes of a finding with so many levels left, follows them all. -/
def ScanReport.IsReadable (r : ScanReport) : Prop :=
  ∀ i ∈ r.vulnerabilities, (Json.object i.vendorAttributes).isReadable (Json.readDepth - 4) = true

theorem ScanJob.isReadable_iff {j : ScanJob} :
    j.toJson.isReadable Json.readDepth = true ↔ ∀ report ∈ j.report, report.IsReadable := by
  have hdepth : Json.readDepth = 195 + 4 + 1 := rfl
  rw [hdepth, ScanJob.isReadable_toJson_iff]
  exact forall₂_congr fun report _ => ScanReport.isReadable_toJson_iff

/-! ## What there is after a write -/

theorem ScanJob.namesDiffer_of_decode {text : String} {job : ScanJob} (h : ScanJob.decode text = .ok job) :
    job.NamesDiffer :=
  ScanJob.namesDiffer_iff.2 fun report hreport => (ScanJob.followed_report_of_decode h report hreport).namesDiffer

namespace Trial

variable {s : JobStore} {call : Call} {id : String} {timeout : Option Number} {c : Circumstances} {w : Trial} {a : Answer}

/-- What a reader comes to. -/
theorem Undisturbed.get (h : Undisturbed s timeout c w) (id : String) :
    (w.run c (s.keyFor id) (s.get id timeout)).1.map .found =
      Call.verdict .get id (Entry.holding (w.server.find? (s.keyFor id))) :=
  h.verdict_of_map ⟨s, .get, timeout⟩ id nofun rfl

/-- What a client comes to that moves the job on. -/
theorem Undisturbed.updateStatus (h : Undisturbed s timeout c w) (id : String) (status : JobStatus)
    (error : Option String) :
    (w.run c (s.keyFor id) (s.updateStatus id status error timeout)).1.map .updated =
      Call.verdict (.update (.moveTo status error)) id (Entry.holding (w.server.find? (s.keyFor id))) :=
  h.verdict_of_map ⟨s, .update (.moveTo status error), timeout⟩ id nofun rfl

/-- A number in so many lists. -/
def nested : Nat → Json
  | 0 => .int 1
  | levels + 1 => .array [nested levels]

end Trial

end ScanAdapter
