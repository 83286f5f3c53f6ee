import ScanAdapter.Proofs.Store.Protocol
import ScanAdapter.Proofs.Store.Refinement
import ScanAdapter.Service

/-!
# Records of scans

The record of a job is the job that the text under its key is decoded to. A report of a scan can be stored, and so
can every job that was ever decoded, and so the record after an update is the changed job, settled.
-/
namespace ScanAdapter

/-! ## Reports of scans -/

namespace Trivy

variable {depth : Nat}

theorem CvssInfo.followed_attributes (c : CvssInfo) : Json.Followed (depth + 1) (.object c.attributes) := by
  refine Json.followed_object.2 ⟨?_, fun m hm => ?_⟩
  · obtain ⟨v2Vector, v3Vector, v2Score, v3Score⟩ := c
    cases v2Vector <;> cases v3Vector <;> cases v2Score <;> cases v3Score <;> simp [attributes]
  · obtain ⟨⟨name, value⟩, hmem, hvalue⟩ := List.mem_filterMap.1 hm
    obtain ⟨v, rfl, rfl⟩ := Option.map_eq_some_iff.1 hvalue
    simp only [List.mem_cons, List.not_mem_nil, or_false, Prod.mk.injEq] at hmem
    rcases hmem with ⟨-, hv⟩ | ⟨-, hv⟩ | ⟨-, hv⟩ | ⟨-, hv⟩ <;>
    · obtain ⟨x, -, rfl⟩ := Option.map_eq_some_iff.1 hv.symm
      exact ⟨rfl, rfl⟩

theorem Vulnerability.followed_normalized {v : Vulnerability} (h : v.SourcesDiffer) :
    Json.Followed (depth + 4) v.normalized.toJson := by
  refine VulnerabilityItem.followed (i := v.normalized) ?_
  change Json.Followed (depth + 3) (.object (vendorAttributes v.cvss))
  unfold vendorAttributes
  split
  · exact Json.followed_object.2 (by simp)
  · refine Json.followed_fields (by simp) (Json.followed_object.2 ⟨?_, fun m hm => ?_⟩)
    · rw [List.map_map]
      exact h
    · obtain ⟨c, -, rfl⟩ := List.mem_map.1 hm
      exact c.2.followed_attributes

/-- The report of a scan can be stored. -/
theorem storable_report {now : Moment} {scanner : Scanner} {artifact : Artifact} {vs : List Vulnerability}
    (h : ∀ v ∈ vs, v.SourcesDiffer) : (report now scanner artifact vs).Storable := by
  refine @ScanReport.followed 195 (report now scanner artifact vs) fun i hi => ?_
  obtain ⟨v, hv, rfl⟩ := List.mem_map.1 hi
  exact Vulnerability.followed_normalized (h v hv)

end Trivy

/-! ## Records -/

theorem ScanJob.storable_of_decode {text : String} {job : ScanJob} (h : ScanJob.decode text = .ok job) : job.Storable :=
  ScanJob.followed_report_of_decode h

theorem Update.storable_moveTo {status : JobStatus} {error : Option String} : (moveTo status error).Storable := nofun

theorem Update.storable_attach {report : ScanReport} (h : report.Storable) : (attach report).Storable := by
  rintro _ ⟨⟩
  exact h

/-- A job can be stored after any change that can. -/
theorem Update.Storable.apply {u : Update} {job : ScanJob} (hu : u.Storable) (hjob : job.Storable) :
    (u.apply job).Storable := u.forall_report_apply hu hjob

/-- A job that was written comes back settled. -/
theorem ScanJob.Storable.decode_of_encode {job : ScanJob} {text : String} (h : job.Storable)
    (hencode : job.encode = .ok text) : ScanJob.decode text = .ok job.settled := by
  obtain ⟨-, rfl⟩ := ScanJob.encode_eq_ok_iff.1 hencode
  exact h.decode

theorem Update.settled_apply_settled (u : Update) (job : ScanJob) :
    (u.apply job.settled).settled = (u.apply job).settled := by
  cases u with
  | moveTo status error =>
    have hreport := congrArg ScanJob.report (WireModel.scanJob.settled_settled job)
    exact congrArg (fun report => (⟨job.id, status, error.or job.error, report⟩ : ScanJob)) hreport
  | attach report => rfl

/-- The text under the key is that of the job. -/
def Server.Records (s : Server) (key : String) (job : ScanJob) : Prop :=
  ∃ text, s.read key = .ok (some text) ∧ ScanJob.decode text = .ok job

namespace Server.Records

variable {s t : Server} {key : String} {job job' : ScanJob}

theorem unique (h : s.Records key job) (h' : s.Records key job') : job = job' := by
  obtain ⟨text, hread, hdecode⟩ := h
  obtain ⟨text', hread', hdecode'⟩ := h'
  rw [hread] at hread'
  cases hread'
  rw [hdecode] at hdecode'
  cases hdecode'
  rfl

/-- The entry of a job that is kept is a record. -/
theorem of_stored {row : ScanJob × Int} (hjob : row.1.Storable) (hfind : s.find? key = some (JobStore.stored row)) :
    s.Records key row.1.settled := ⟨_, read_of_find? hfind rfl, hjob.decode⟩

theorem congr (h : s.Records key job) (hfind : t.find? key = s.find? key) : t.Records key job := by
  obtain ⟨text, hread, hdecode⟩ := h
  exact ⟨text, (read_congr hfind).trans hread, hdecode⟩

theorem storable (h : s.Records key job) : job.Storable := by
  obtain ⟨text, -, hdecode⟩ := h
  exact ScanJob.storable_of_decode hdecode

end Server.Records

end ScanAdapter
