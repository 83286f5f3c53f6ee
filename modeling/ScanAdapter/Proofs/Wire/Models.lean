import ScanAdapter.Job
import ScanAdapter.Proofs.Json.Data
import ScanAdapter.Proofs.Time.Moment
import ScanAdapter.Trivy.Vulnerability

/-!
# Models and their JSON form

A model is read from the settled form of what it was written to, and comes back with null for the numbers that
JSON cannot write. Each kind of field has one fact of its own (`ComesBack`); a model's fields are found under the
names they were written with, so the fact of a model is put together from those of its fields.
-/
namespace ScanAdapter

open Validated

/-! ## Kinds of fields -/

/-- What is written by `write` is read by `read`, and comes back as `settle` says. -/
def ComesBack {α : Type} (read : Json → Validated α) (write : α → Json) (settle : α → α) : Prop :=
  ∀ a, read (write a).settled = .accepted (settle a)

namespace ComesBack

variable {α : Type} {read : Json → Validated α} {write : α → Json} {settle : α → α}

/-- A value whose settled form is not null may be absent. -/
theorem optional (h : ComesBack read write settle) (hn : ∀ a, (write a).settled ≠ .null) :
    ComesBack (Validated.optional read) (fun o => (o.map write).getD .null) (Option.map settle) := by
  intro o
  cases o with
  | none => rfl
  | some a =>
    have ha := h a
    simp only [Option.map_some, Option.getD_some]
    unfold Validated.optional
    split
    · exact absurd ‹_› (hn a)
    · rw [ha]
      rfl

theorem items (h : ComesBack read write settle) (index : Nat) (as : List α) :
    Validated.items read index (Json.settledItems (as.map write)) = .accepted (as.map settle) := by
  induction as generalizing index with
  | nil => rfl
  | cons a as ih =>
    rw [List.map_cons, Json.settledItems, Validated.items, h a, ih (index + 1)]
    rfl

theorem list (h : ComesBack read write settle) :
    ComesBack (Validated.list read) (fun as => .array (as.map write)) (List.map settle) := by
  intro as
  rw [Json.settled]
  exact h.items 0 as

theorem members (h : ComesBack read write settle) (es : Entries α) :
    Validated.members read (Json.settledMembers (es.map fun e => (e.1, write e.2))) =
      .accepted (es.map fun e => (e.1, settle e.2)) := by
  induction es with
  | nil => rfl
  | cons e es ih =>
    rw [List.map_cons, Json.settledMembers, Validated.members, h e.2, ih]
    rfl

theorem mapOf (h : ComesBack read write settle) :
    ComesBack (Validated.mapOf read) (fun es => .object (es.map fun e => (e.1, write e.2)))
      (List.map fun e => (e.1, settle e.2)) := by
  intro es
  rw [Json.settled]
  exact h.members es

end ComesBack

theorem comesBack_text : ComesBack text .string id := fun _ => rfl

theorem comesBack_texts (ss : List String) : list text (Json.array (ss.map .string)).settled = .accepted ss := by
  simpa using comesBack_text.list ss

theorem comesBack_optionalText (s : Option String) :
    optional text (Json.optionalString s).settled = .accepted s := by cases s <;> rfl

/-- A number that JSON cannot write is absent. -/
theorem comesBack_optionalFloat (origin : Origin) (x : Option Binary64) :
    optional (float origin) ((x.map Json.float).getD .null).settled =
      .accepted (x.filter Binary64.isFinite) := by
  rcases x with _ | (x | negative | _) <;> rfl

theorem Severity.ofLabel?_label (v : Severity) : ofLabel? v.label = some v := by cases v <;> rfl

theorem comesBack_severity : ComesBack Severity.read (fun v => .string v.label) id := by
  intro v
  show Severity.read (.string v.label) = _
  rw [Severity.read, Severity.ofLabel?_label]
  rfl

theorem comesBack_moment (origin : Origin) : ComesBack (moment origin) (fun m => .string m.text) id := by
  intro m
  show moment origin (.string m.text) = _
  rw [moment, Moment.ofString_text]
  rfl

/-! ## Fields of a model -/

namespace Validated

variable {α β : Type}

theorem map_accepted (f : α → β) {x : Validated α} {a : α} (hx : x = .accepted a) : f <$> x = .accepted (f a) := by
  rw [hx]
  rfl

theorem seq_accepted {f : Validated (α → β)} {x : Validated α} {g : α → β} {a : α} (hf : f = .accepted g)
    (hx : x = .accepted a) : f <*> x = .accepted (g a) := by
  rw [hf, hx]
  rfl

end Validated

namespace FieldName

variable {α : Type} {f : FieldName} {read : Json → Validated α} {ms : Members} {name : String} {v : Json} {a : α}

theorem required_of_find? (h : f.find? ms = some (name, v)) (hr : read v = .accepted a) :
    f.required read ms = .accepted a := by
  rw [required, h]
  simp only [hr, under]

theorem orElse_of_find? {default : α} (h : f.find? ms = some (name, v)) (hr : read v = .accepted a) :
    f.orElse default read ms = .accepted a := by
  rw [orElse, h]
  simp only [hr, under]

end FieldName

/-! ## Models of the report -/

/-- An item comes back with its attributes settled. -/
def VulnerabilityItem.settled (i : VulnerabilityItem) : VulnerabilityItem :=
  { i with vendorAttributes := Json.settledMembers i.vendorAttributes }

def ScanReport.settled (r : ScanReport) : ScanReport :=
  { r with vulnerabilities := r.vulnerabilities.map VulnerabilityItem.settled }

def ScanJob.settled (j : ScanJob) : ScanJob := { j with report := j.report.map ScanReport.settled }

theorem comesBack_scanner : ComesBack Scanner.read Scanner.toJson id := fun _ => rfl

theorem comesBack_artifact : ComesBack Artifact.read Artifact.toJson id := by
  rintro ⟨repository, digest, tag, mimeType⟩
  cases tag <;> cases mimeType <;> rfl

theorem comesBack_layer : ComesBack Layer.read Layer.toJson id := by
  rintro ⟨digest, diffId⟩
  cases digest <;> cases diffId <;> rfl

theorem comesBack_item : ComesBack VulnerabilityItem.read VulnerabilityItem.toJson VulnerabilityItem.settled := by
  intro i
  have hlayer := (comesBack_layer.optional fun _ => nofun) i.layer
  rw [Option.map_id] at hlayer
  simp only [VulnerabilityItem.read, VulnerabilityItem.toJson, Json.settled, Json.settledMembers, model]
  refine seq_accepted (seq_accepted (seq_accepted (seq_accepted (seq_accepted (seq_accepted (seq_accepted
    (seq_accepted (seq_accepted (map_accepted _ rfl) rfl) rfl) rfl) ?severity) rfl) ?links) ?layer) ?cwes) rfl
  case severity => exact FieldName.orElse_of_find? rfl (comesBack_severity i.severity)
  case links => exact FieldName.orElse_of_find? rfl (comesBack_texts i.links)
  case layer => exact FieldName.orElse_of_find? rfl hlayer
  case cwes => exact FieldName.orElse_of_find? rfl (comesBack_texts i.cweIds)

theorem comesBack_report (origin : Origin) :
    ComesBack (ScanReport.read origin) ScanReport.toJson ScanReport.settled := by
  intro r
  simp only [ScanReport.read, ScanReport.toJson, Json.settled, Json.settledMembers, model]
  refine seq_accepted (seq_accepted (seq_accepted (seq_accepted (map_accepted _ ?moment) ?scanner) ?artifact)
    ?severity) ?items
  case moment => exact FieldName.required_of_find? rfl (comesBack_moment origin r.generatedAt)
  case scanner => exact FieldName.required_of_find? rfl (comesBack_scanner r.scanner)
  case artifact => exact FieldName.required_of_find? rfl (comesBack_artifact r.artifact)
  case severity => exact FieldName.orElse_of_find? rfl (comesBack_severity r.severity)
  case items => exact FieldName.orElse_of_find? rfl (comesBack_item.list r.vulnerabilities)

theorem comesBack_status : ComesBack JobStatus.read (fun v => .string v.text) id := by
  intro v
  show JobStatus.read (.string v.text) = _
  rw [JobStatus.read, JobStatus.ofText?_text]
  rfl

theorem comesBack_job (origin : Origin) : ComesBack (ScanJob.read origin) ScanJob.toJson ScanJob.settled := by
  intro j
  simp only [ScanJob.read, ScanJob.toJson, Json.settled, Json.settledMembers, model]
  refine seq_accepted (seq_accepted (seq_accepted (map_accepted _ rfl) ?status) ?error) ?report
  case status => exact FieldName.orElse_of_find? rfl (comesBack_status j.status)
  case error => exact FieldName.orElse_of_find? rfl (comesBack_optionalText j.error)
  case report =>
    exact FieldName.orElse_of_find? rfl (((comesBack_report origin).optional fun _ => nofun) j.report)

/-! ## Models of Trivy -/

namespace Trivy

/-- Scores that JSON cannot write are absent. -/
def CvssInfo.settled (c : CvssInfo) : CvssInfo :=
  { c with v2Score := c.v2Score.filter Binary64.isFinite, v3Score := c.v3Score.filter Binary64.isFinite }

def Vulnerability.settled (v : Vulnerability) : Vulnerability :=
  { v with cvss := v.cvss.map fun c => (c.1, c.2.settled) }

theorem comesBack_layer : ComesBack Layer.read Layer.toJson id := by
  rintro ⟨digest, diffId⟩
  cases digest <;> cases diffId <;> rfl

theorem comesBack_cvss (origin : Origin) : ComesBack (CvssInfo.read origin) CvssInfo.toJson CvssInfo.settled := by
  intro c
  simp only [CvssInfo.read, CvssInfo.toJson, Json.settled, Json.settledMembers, model]
  refine seq_accepted (seq_accepted (seq_accepted (map_accepted _ ?v2Vector) ?v3Vector) ?v2Score) ?v3Score
  case v2Vector => exact FieldName.orElse_of_find? rfl (comesBack_optionalText c.v2Vector)
  case v3Vector => exact FieldName.orElse_of_find? rfl (comesBack_optionalText c.v3Vector)
  case v2Score => exact FieldName.orElse_of_find? rfl (comesBack_optionalFloat origin c.v2Score)
  case v3Score => exact FieldName.orElse_of_find? rfl (comesBack_optionalFloat origin c.v3Score)

theorem comesBack_vulnerability (origin : Origin) :
    ComesBack (Vulnerability.read origin) Vulnerability.toJson Vulnerability.settled := by
  intro v
  have hreferences := (comesBack_text.list.optional fun _ => nofun) v.references
  have hlayer := (comesBack_layer.optional fun _ => nofun) v.layer
  rw [List.map_id_fun, Option.map_id] at hreferences
  rw [Option.map_id] at hlayer
  simp only [Vulnerability.read, Vulnerability.toJson, Json.settled, Json.settledMembers, model]
  refine seq_accepted (seq_accepted (seq_accepted (seq_accepted (seq_accepted (seq_accepted (seq_accepted
    (seq_accepted (seq_accepted (seq_accepted (seq_accepted (map_accepted _ rfl) rfl) rfl) rfl) rfl) rfl) rfl)
      rfl) ?references) ?layer) ?cvss) ?cwes
  case references => exact FieldName.orElse_of_find? rfl hreferences
  case layer => exact FieldName.orElse_of_find? rfl hlayer
  case cvss => exact FieldName.orElse_of_find? rfl ((comesBack_cvss origin).mapOf v.cvss)
  case cwes => exact FieldName.orElse_of_find? rfl (comesBack_texts v.cweIds)

end Trivy

end ScanAdapter
