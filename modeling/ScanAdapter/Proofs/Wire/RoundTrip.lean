import ScanAdapter.Proofs.Json.Reading
import ScanAdapter.Proofs.Wire.Models

/-!
# Decoding undoes encoding

Nine models have a wire format. What is written of a value of any of them is accepted by the same model and comes
back settled: the value itself, with null for the numbers that JSON cannot write. The text of the settled value is
the same text again, so a record that is read and written back any number of times does not drift.
-/
namespace ScanAdapter

open Json (Followed)

/-! ## The JSON form of a settled value -/

@[simp] theorem Json.settled_optionalString (s : Option String) :
    (Json.optionalString s).settled = .optionalString s := by cases s <;> rfl

@[simp] theorem Json.settled_texts (ss : List String) :
    (Json.array (ss.map .string)).settled = .array (ss.map .string) := by
  rw [Json.settled, Json.settledItems_eq, List.map_map]
  rfl

theorem Layer.toJson_settled (l : Layer) : l.toJson.settled = l.toJson := by
  simp [Layer.toJson, Json.settled, Json.settledMembers]

theorem Scanner.toJson_settled (s : Scanner) : s.toJson.settled = s.toJson := rfl

theorem Artifact.toJson_settled (a : Artifact) : a.toJson.settled = a.toJson := by
  simp [Artifact.toJson, Json.settled, Json.settledMembers]

theorem VulnerabilityItem.toJson_settled (i : VulnerabilityItem) : i.settled.toJson = i.toJson.settled := by
  have hlayer : ((i.layer.map Layer.toJson).getD .null).settled = (i.layer.map Layer.toJson).getD .null := by
    cases i.layer with
    | none => rfl
    | some l => exact l.toJson_settled
  have hlinks := Json.settled_texts i.links
  have hcwes := Json.settled_texts i.cweIds
  simp only [Json.settled, Json.array.injEq] at hlinks hcwes
  simp only [VulnerabilityItem.toJson, VulnerabilityItem.settled, Json.settled, Json.settledMembers, hlayer, hlinks,
    hcwes]

theorem ScanReport.toJson_settled (r : ScanReport) : r.settled.toJson = r.toJson.settled := by
  have hitems : (r.vulnerabilities.map VulnerabilityItem.settled).map VulnerabilityItem.toJson =
      Json.settledItems (r.vulnerabilities.map VulnerabilityItem.toJson) := by
    rw [Json.settledItems_eq, List.map_map, List.map_map]
    exact List.map_congr_left fun i _ => i.toJson_settled
  simp only [ScanReport.toJson, ScanReport.settled, Json.settled, Json.settledMembers, hitems,
    r.scanner.toJson_settled, r.artifact.toJson_settled]

theorem ScanJob.toJson_settled (j : ScanJob) : j.settled.toJson = j.toJson.settled := by
  have hreport : ((j.report.map ScanReport.settled).map ScanReport.toJson).getD .null =
      ((j.report.map ScanReport.toJson).getD .null).settled := by
    cases j.report with
    | none => rfl
    | some r => exact r.toJson_settled
  simp only [ScanJob.toJson, ScanJob.settled, Json.settled, Json.settledMembers, hreport,
    Json.settled_optionalString]

namespace Trivy

theorem Layer.toJson_settled (l : Layer) : l.toJson.settled = l.toJson := by
  simp [Layer.toJson, Json.settled, Json.settledMembers]

theorem CvssInfo.toJson_settled (c : CvssInfo) : c.settled.toJson = c.toJson.settled := by
  have hscore : ∀ x : Option Binary64,
      ((x.filter Binary64.isFinite).map Json.float).getD .null = ((x.map Json.float).getD .null).settled := by
    rintro (_ | (x | negative | _)) <;> rfl
  simp only [CvssInfo.toJson, CvssInfo.settled, Json.settled, Json.settledMembers, hscore,
    Json.settled_optionalString]

theorem Vulnerability.toJson_settled (v : Vulnerability) : v.settled.toJson = v.toJson.settled := by
  have hlayer : ((v.layer.map Layer.toJson).getD .null).settled = (v.layer.map Layer.toJson).getD .null := by
    cases v.layer with
    | none => rfl
    | some l => exact l.toJson_settled
  have hreferences : ((v.references.map fun rs => Json.array (rs.map .string)).getD .null).settled =
      (v.references.map fun rs => Json.array (rs.map .string)).getD .null := by
    cases v.references with
    | none => rfl
    | some rs => exact Json.settled_texts rs
  have hcvss : (v.cvss.map fun c => (c.1, c.2.settled)).map (fun c => (c.1, c.2.toJson)) =
      Json.settledMembers (v.cvss.map fun c => (c.1, c.2.toJson)) := by
    rw [Json.settledMembers_eq, List.map_map, List.map_map]
    exact List.map_congr_left fun c _ => Prod.ext rfl c.2.toJson_settled
  have hcwes := Json.settled_texts v.cweIds
  simp only [Json.settled, Json.array.injEq] at hcwes
  simp only [Vulnerability.toJson, Vulnerability.settled, Json.settled, Json.settledMembers, hlayer, hreferences,
    hcvss, hcwes]

end Trivy

/-! ## Values that JSON can write whole -/

theorem VulnerabilityItem.settled_eq {i : VulnerabilityItem} (h : i.toJson.every Json.hasText = true) :
    i.settled = i := by
  have hattributes : (Json.object i.vendorAttributes).every Json.hasText = true :=
    Json.every_of_mem_members (m := ("vendor_attributes", _)) h (by simp)
  rw [Json.every, Bool.and_eq_true] at hattributes
  rw [settled, Json.settledMembers_of_hasText _ hattributes.2]

theorem ScanReport.settled_eq {r : ScanReport} (h : r.toJson.every Json.hasText = true) : r.settled = r := by
  have hitems : (Json.array (r.vulnerabilities.map VulnerabilityItem.toJson)).every Json.hasText = true :=
    Json.every_of_mem_members (m := ("vulnerabilities", _)) h (by simp)
  have hall : r.vulnerabilities.map VulnerabilityItem.settled = r.vulnerabilities.map id :=
    List.map_congr_left fun i hi =>
      VulnerabilityItem.settled_eq (Json.every_of_mem_items hitems (List.mem_map_of_mem hi))
  rw [settled, hall, List.map_id]

theorem ScanJob.settled_eq {j : ScanJob} (h : j.toJson.every Json.hasText = true) : j.settled = j := by
  have hreport : ((j.report.map ScanReport.toJson).getD .null).every Json.hasText = true :=
    Json.every_of_mem_members (m := ("report", (j.report.map ScanReport.toJson).getD .null)) h (by simp)
  obtain ⟨id, status, error, report⟩ := j
  cases report with
  | none => rfl
  | some r => rw [settled, Option.map_some, ScanReport.settled_eq hreport]

namespace Trivy

theorem CvssInfo.settled_eq {c : CvssInfo} (h : c.toJson.every Json.hasText = true) : c.settled = c := by
  have hscore : ∀ x : Option Binary64, ((x.map Json.float).getD .null).every Json.hasText = true →
      x.filter Binary64.isFinite = x := by
    rintro (_ | x) hx
    · rfl
    · exact Option.filter_eq_some_iff.2 ⟨rfl, hx⟩
  have h2 : c.v2Score.filter Binary64.isFinite = c.v2Score :=
    hscore _ (Json.every_of_mem_members (m := ("V2Score", (c.v2Score.map Json.float).getD .null)) h (by simp))
  have h3 : c.v3Score.filter Binary64.isFinite = c.v3Score :=
    hscore _ (Json.every_of_mem_members (m := ("V3Score", (c.v3Score.map Json.float).getD .null)) h (by simp))
  rw [settled, h2, h3]

theorem Vulnerability.settled_eq {v : Vulnerability} (h : v.toJson.every Json.hasText = true) : v.settled = v := by
  have hcvss : (Json.object (v.cvss.map fun c => (c.1, c.2.toJson))).every Json.hasText = true :=
    Json.every_of_mem_members (m := ("CVSS", _)) h (by simp)
  have hall : (v.cvss.map fun c => (c.1, c.2.settled)) = v.cvss.map id :=
    List.map_congr_left fun c hc =>
      Prod.ext rfl (CvssInfo.settled_eq (Json.every_of_mem_members hcvss (List.mem_map_of_mem hc)))
  rw [settled, hall, List.map_id]

end Trivy

/-! ## Faults of writing -/

/-- Free-form attributes that lie two levels below what a reader follows are no obstacle to the writer, which
follows more levels. -/
theorem Json.faultInMembers?_of_followed {ms : Members} {depth : Nat} (hd : depth ≤ writeDepth)
    (h : Followed depth (.object ms)) : faultInMembers? writeDepth ms = none := by
  obtain ⟨hdata, hreadable⟩ := h
  rw [isData, every, every, Bool.and_eq_true, Bool.and_eq_true, Bool.and_eq_true] at hdata
  rw [isReadable, Bool.and_eq_true, decide_eq_true_iff, levels] at hreadable
  exact faultInMembers?_eq_none _ hdata.2.2 (by omega)

theorem VulnerabilityItem.fault?_eq_none {i : VulnerabilityItem} {depth : Nat} (hd : depth ≤ Json.writeDepth)
    (h : Followed (depth + 1) i.toJson) : i.fault? = none := by
  have hattributes : Followed depth (.object i.vendorAttributes) :=
    (Json.followed_object.1 h).2 ("vendor_attributes", .object i.vendorAttributes) (by simp)
  exact Json.faultInMembers?_of_followed hd hattributes

theorem ScanReport.fault?_eq_none {r : ScanReport} {depth : Nat} (hd : depth ≤ Json.writeDepth)
    (h : Followed (depth + 3) r.toJson) : r.fault? = none := by
  have hitems : Followed (depth + 2) (.array (r.vulnerabilities.map VulnerabilityItem.toJson)) :=
    (Json.followed_object.1 h).2 ("vulnerabilities", _) (by simp)
  refine List.findSome?_eq_none_iff.2 fun i hi => ?_
  exact VulnerabilityItem.fault?_eq_none hd (Json.followed_array.1 hitems _ (List.mem_map_of_mem hi))

theorem ScanJob.fault?_eq_none {j : ScanJob} {depth : Nat} (hd : depth ≤ Json.writeDepth)
    (h : Followed (depth + 4) j.toJson) : j.report.bind ScanReport.fault? = none := by
  have hreport : Followed (depth + 3) ((j.report.map ScanReport.toJson).getD .null) :=
    (Json.followed_object.1 h).2 ("report", (j.report.map ScanReport.toJson).getD .null) (by simp)
  cases hr : j.report with
  | none => rfl
  | some r =>
    rw [hr] at hreport
    exact ScanReport.fault?_eq_none hd hreport

/-- What can be written can be written when it comes back. -/
theorem VulnerabilityItem.fault?_settled {i : VulnerabilityItem} (h : i.fault? = none) : i.settled.fault? = none :=
  Json.faultInMembers?_settledMembers _ h

theorem ScanReport.fault?_settled {r : ScanReport} (h : r.fault? = none) : r.settled.fault? = none := by
  rw [fault?, settled, List.findSome?_eq_none_iff]
  intro i hi
  obtain ⟨j, hj, rfl⟩ := List.mem_map.1 hi
  exact VulnerabilityItem.fault?_settled (List.findSome?_eq_none_iff.1 h j hj)

theorem ScanJob.fault?_settled {j : ScanJob} (h : j.report.bind ScanReport.fault? = none) :
    j.settled.report.bind ScanReport.fault? = none := by
  obtain ⟨id, status, error, report⟩ := j
  cases report with
  | none => rfl
  | some r => exact ScanReport.fault?_settled h

/-- A finished job whose report has one finding, with a score among its attributes that is no number. -/
def ScanJob.sample : ScanJob where
  id := "job-1"
  status := .finished
  error := none
  report := some {
    generatedAt := ⟨2024, 5, 1, 12, 30, 0, 250000, some (-90), by decide⟩
    scanner := ⟨"Trivy", "Aqua Security", "0.50.1"⟩
    artifact := ⟨"library/alpine", "sha256:3f", some "3.19", none⟩
    severity := .high
    vulnerabilities := [
      ⟨"CVE-2024-1", "openssl", "1.0", "", .high, "a \"quoted\"\nline", [], some ⟨none, some "sha256:9c"⟩, ["CWE-79"],
        [("CVSS", .object [("nvd", .array [.float .nan, .int 7])])]⟩] }

/-! ## The models with a wire format -/

inductive WireModel
  | scanJob
  | scanReport
  | vulnerabilityItem
  | layer
  | scanner
  | artifact
  | trivyVulnerability
  | trivyLayer
  | cvssInfo
  deriving DecidableEq, Repr

namespace WireModel

def Value : WireModel → Type
  | scanJob => ScanJob
  | scanReport => ScanReport
  | vulnerabilityItem => VulnerabilityItem
  | layer => Layer
  | scanner => Scanner
  | artifact => Artifact
  | trivyVulnerability => Trivy.Vulnerability
  | trivyLayer => Trivy.Layer
  | cvssInfo => Trivy.CvssInfo

def name : WireModel → String
  | scanJob => "ScanJob"
  | scanReport => "ScanReport"
  | vulnerabilityItem => "VulnerabilityItem"
  | layer => "Layer"
  | scanner => "Scanner"
  | artifact => "Artifact"
  | trivyVulnerability => "TrivyVulnerability"
  | trivyLayer => "TrivyLayer"
  | cvssInfo => "CVSSInfo"

/-- How a value in a JSON text is read. -/
def read : (m : WireModel) → Json → Validated m.Value
  | scanJob => ScanJob.read .text
  | scanReport => ScanReport.read .text
  | vulnerabilityItem => VulnerabilityItem.read
  | layer => Layer.read
  | scanner => Scanner.read
  | artifact => Artifact.read
  | trivyVulnerability => Trivy.Vulnerability.read .text
  | trivyLayer => Trivy.Layer.read
  | cvssInfo => Trivy.CvssInfo.read .text

def toJson : (m : WireModel) → m.Value → Json
  | scanJob => ScanJob.toJson
  | scanReport => ScanReport.toJson
  | vulnerabilityItem => VulnerabilityItem.toJson
  | layer => Layer.toJson
  | scanner => Scanner.toJson
  | artifact => Artifact.toJson
  | trivyVulnerability => Trivy.Vulnerability.toJson
  | trivyLayer => Trivy.Layer.toJson
  | cvssInfo => Trivy.CvssInfo.toJson

/-- The text of a value, or what keeps it from being written. -/
def write : (m : WireModel) → m.Value → Except Json.WriteFault String
  | scanJob => ScanJob.encode
  | scanReport => ScanReport.write
  | vulnerabilityItem => VulnerabilityItem.write
  | layer => fun l => .ok l.toJson.render
  | scanner => fun s => .ok s.toJson.render
  | artifact => fun a => .ok a.toJson.render
  | trivyVulnerability => fun v => .ok v.toJson.render
  | trivyLayer => fun l => .ok l.toJson.render
  | cvssInfo => fun c => .ok c.toJson.render

/-- The value that a text holds. -/
def decode (m : WireModel) (text : String) : Except Refusal m.Value := Refusal.ofJsonText m.name m.read text

/-- A value with null in place of each number that is not finite. -/
def settled : (m : WireModel) → m.Value → m.Value
  | scanJob => ScanJob.settled
  | scanReport => ScanReport.settled
  | vulnerabilityItem => VulnerabilityItem.settled
  | layer => id
  | scanner => id
  | artifact => id
  | trivyVulnerability => Trivy.Vulnerability.settled
  | trivyLayer => id
  | cvssInfo => Trivy.CvssInfo.settled

theorem comesBack (m : WireModel) : ComesBack m.read m.toJson m.settled := by
  cases m with
  | scanJob => exact comesBack_job .text
  | scanReport => exact comesBack_report .text
  | vulnerabilityItem => exact comesBack_item
  | layer => exact comesBack_layer
  | scanner => exact comesBack_scanner
  | artifact => exact comesBack_artifact
  | trivyVulnerability => exact Trivy.comesBack_vulnerability .text
  | trivyLayer => exact Trivy.comesBack_layer
  | cvssInfo => exact Trivy.comesBack_cvss .text

theorem toJson_settled (m : WireModel) (v : m.Value) : m.toJson (m.settled v) = (m.toJson v).settled := by
  cases m with
  | scanJob => exact ScanJob.toJson_settled v
  | scanReport => exact ScanReport.toJson_settled v
  | vulnerabilityItem => exact VulnerabilityItem.toJson_settled v
  | layer => exact (Layer.toJson_settled v).symm
  | scanner => exact (Scanner.toJson_settled v).symm
  | artifact => exact (Artifact.toJson_settled v).symm
  | trivyVulnerability => exact Trivy.Vulnerability.toJson_settled v
  | trivyLayer => exact (Trivy.Layer.toJson_settled v).symm
  | cvssInfo => exact Trivy.CvssInfo.toJson_settled v

theorem settled_eq (m : WireModel) (v : m.Value) (h : (m.toJson v).every Json.hasText = true) :
    m.settled v = v := by
  cases m with
  | scanJob => exact ScanJob.settled_eq h
  | scanReport => exact ScanReport.settled_eq h
  | vulnerabilityItem => exact VulnerabilityItem.settled_eq h
  | trivyVulnerability => exact Trivy.Vulnerability.settled_eq h
  | cvssInfo => exact Trivy.CvssInfo.settled_eq h
  | layer | scanner | artifact | trivyLayer => rfl

/-- To settle a value twice makes no difference. -/
theorem settled_settled (m : WireModel) (v : m.Value) : m.settled (m.settled v) = m.settled v := by
  refine m.settled_eq _ ?_
  rw [toJson_settled]
  exact Json.hasText_settled _

/-- What keeps a value from being written. -/
def fault? : (m : WireModel) → m.Value → Option Json.WriteFault
  | scanJob => fun j => j.report.bind ScanReport.fault?
  | scanReport => ScanReport.fault?
  | vulnerabilityItem => VulnerabilityItem.fault?
  | _ => fun _ => none

theorem fault?_eq_none {m : WireModel} {v : m.Value} (h : Followed Json.readDepth (m.toJson v)) :
    m.fault? v = none := by
  cases m with
  | scanJob => exact @ScanJob.fault?_eq_none v 196 (by decide) h
  | scanReport => exact @ScanReport.fault?_eq_none v 197 (by decide) h
  | vulnerabilityItem => exact @VulnerabilityItem.fault?_eq_none v 199 (by decide) h
  | layer | scanner | artifact | trivyVulnerability | trivyLayer | cvssInfo => rfl

theorem fault?_settled {m : WireModel} {v : m.Value} (h : m.fault? v = none) : m.fault? (m.settled v) = none := by
  cases m with
  | scanJob => exact ScanJob.fault?_settled h
  | scanReport => exact ScanReport.fault?_settled h
  | vulnerabilityItem => exact VulnerabilityItem.fault?_settled h
  | layer | scanner | artifact | trivyVulnerability | trivyLayer | cvssInfo => rfl

/-- A written value that the reader follows is decoded to the settled value, any other is refused. -/
theorem decode_render (m : WireModel) (v : m.Value) (hn : (m.toJson v).every Json.namesDiffer = true) :
    ((m.toJson v).isReadable Json.readDepth = true → m.decode (m.toJson v).render = .ok (m.settled v)) ∧
      (¬ (m.toJson v).isReadable Json.readDepth = true → ∃ r, m.decode (m.toJson v).render = .error r) := by
  obtain ⟨hok, hrefused⟩ := Json.parse_render (m.toJson v) hn Json.readDepth
  constructor
  · intro h
    rw [decode, Refusal.ofJsonText, Validated.ofJsonText, hok h]
    simp only [m.comesBack v]
  · intro h
    obtain ⟨fault, hf⟩ := hrefused h
    rw [decode, Refusal.ofJsonText, Validated.ofJsonText, hf]
    exact ⟨_, rfl⟩

end WireModel

/-! ## What the reader does not take -/

/-- A reader that comes to the end of an item has come to the end of its free-form attributes. -/
theorem VulnerabilityItem.isReadable_attributes {i : VulnerabilityItem} {depth : Nat}
    (h : i.toJson.isReadable (depth + 1) = true) : (Json.object i.vendorAttributes).isReadable depth = true :=
  Json.isReadable_object.1 h ("vendor_attributes", .object i.vendorAttributes) (by simp)

end ScanAdapter
