import ScanAdapter.Proofs.Validation.Changes

/-!
# Models and their fields

The fields of every model in the order in which they are declared, with the shape in which other models lie in them. A
model is read by its fields and by nothing else (`WireModel.reads_fields_only`).
-/
namespace ScanAdapter

open Validated Relation

/-! ## Fields -/

def Scanner.fields : List Field :=
  [⟨.plain "name", String, none, text, .whole⟩,
   ⟨.plain "vendor", String, none, text, .whole⟩,
   ⟨.plain "version", String, none, text, .whole⟩]

def Artifact.fields : List Field :=
  [⟨.plain "repository", String, none, text, .whole⟩,
   ⟨.plain "digest", String, none, text, .whole⟩,
   ⟨.plain "tag", Option String, some none, optional text, .whole⟩,
   ⟨.plain "mime_type", Option String, some none, optional text, .whole⟩]

def Layer.fields : List Field :=
  [⟨.plain "digest", Option String, some none, optional text, .whole⟩,
   ⟨.plain "diff_id", Option String, some none, optional text, .whole⟩]

/-- Free-form attributes are taken as a whole. -/
def VulnerabilityItem.fields : List Field :=
  [⟨.plain "id", String, none, text, .whole⟩,
   ⟨.plain "package", String, none, text, .whole⟩,
   ⟨.aliased "installed_version" "version", String, some "", text, .whole⟩,
   ⟨.plain "fix_version", String, some "", text, .whole⟩,
   ⟨.plain "severity", Severity, some .unknown, Severity.read, .whole⟩,
   ⟨.plain "description", String, some "", text, .whole⟩,
   ⟨.plain "links", List String, some [], list text, .whole⟩,
   ⟨.plain "layer", Option Layer, some none, optional Layer.read, .optional (.ofFields Layer.fields)⟩,
   ⟨.plain "cwe_ids", List String, some [], list text, .whole⟩,
   ⟨.plain "vendor_attributes", Members, some [], freeForm, .whole⟩]

def ScanReport.fields (origin : Origin) : List Field :=
  [⟨.plain "generated_at", Moment, none, moment origin, .whole⟩,
   ⟨.plain "scanner", Scanner, none, Scanner.read, .ofFields Scanner.fields⟩,
   ⟨.plain "artifact", Artifact, none, Artifact.read, .ofFields Artifact.fields⟩,
   ⟨.plain "severity", Severity, some .unknown, Severity.read, .whole⟩,
   ⟨.plain "vulnerabilities", List VulnerabilityItem, some [], list VulnerabilityItem.read,
     .list (.ofFields VulnerabilityItem.fields)⟩]

def ScanJob.fields (origin : Origin) : List Field :=
  [⟨.plain "id", String, none, text, .whole⟩,
   ⟨.plain "status", JobStatus, some .queued, JobStatus.read, .whole⟩,
   ⟨.plain "error", Option String, some none, optional text, .whole⟩,
   ⟨.plain "report", Option ScanReport, some none, optional (ScanReport.read origin),
     .optional (.ofFields (ScanReport.fields origin))⟩]

namespace Trivy

def Layer.fields : List Field :=
  [⟨.aliased "digest" "Digest", Option String, some none, optional text, .whole⟩,
   ⟨.aliased "diff_id" "DiffID", Option String, some none, optional text, .whole⟩]

def CvssInfo.fields (origin : Origin) : List Field :=
  [⟨.aliased "v2_vector" "V2Vector", Option String, some none, optional text, .whole⟩,
   ⟨.aliased "v3_vector" "V3Vector", Option String, some none, optional text, .whole⟩,
   ⟨.aliased "v2_score" "V2Score", Option Binary64, some none, optional (float origin), .whole⟩,
   ⟨.aliased "v3_score" "V3Score", Option Binary64, some none, optional (float origin), .whole⟩]

def Vulnerability.fields (origin : Origin) : List Field :=
  [⟨.aliased "vulnerability_id" "VulnerabilityID", String, some "", text, .whole⟩,
   ⟨.aliased "pkg_name" "PkgName", String, some "", text, .whole⟩,
   ⟨.aliased "installed_version" "InstalledVersion", String, some "", text, .whole⟩,
   ⟨.aliased "fixed_version" "FixedVersion", String, some "", text, .whole⟩,
   ⟨.aliased "title" "Title", String, some "", text, .whole⟩,
   ⟨.aliased "description" "Description", String, some "", text, .whole⟩,
   ⟨.aliased "severity" "Severity", String, some "UNKNOWN", text, .whole⟩,
   ⟨.aliased "primary_url" "PrimaryURL", String, some "", text, .whole⟩,
   ⟨.aliased "references" "References", Option (List String), some none, optional (list text), .whole⟩,
   ⟨.aliased "layer" "Layer", Option Layer, some none, optional Layer.read, .optional (.ofFields Layer.fields)⟩,
   ⟨.aliased "cvss" "CVSS", List (String × CvssInfo), some [], mapOf (CvssInfo.read origin),
     .mapOf (.ofFields (CvssInfo.fields origin))⟩,
   ⟨.aliased "cwe_ids" "CweIDs", List String, some [], list text, .whole⟩]

end Trivy

/-! ## Readers see their fields only -/

theorem Scanner.collects : Collects (fun ms => Scanner.read (.object ms)) (fields.map Field.part) := ⟨Scanner.mk, rfl⟩

theorem Artifact.collects : Collects (fun ms => Artifact.read (.object ms)) (fields.map Field.part) :=
  ⟨Artifact.mk, rfl⟩

theorem Layer.collects : Collects (fun ms => Layer.read (.object ms)) (fields.map Field.part) := ⟨Layer.mk, rfl⟩

theorem VulnerabilityItem.collects :
    Collects (fun ms => VulnerabilityItem.read (.object ms)) (fields.map Field.part) := ⟨VulnerabilityItem.mk, rfl⟩

theorem ScanReport.collects (origin : Origin) :
    Collects (fun ms => ScanReport.read origin (.object ms)) ((fields origin).map Field.part) := ⟨ScanReport.mk, rfl⟩

theorem ScanJob.collects (origin : Origin) :
    Collects (fun ms => ScanJob.read origin (.object ms)) ((fields origin).map Field.part) := ⟨ScanJob.mk, rfl⟩

namespace Trivy

theorem Layer.collects : Collects (fun ms => Layer.read (.object ms)) (fields.map Field.part) := ⟨Layer.mk, rfl⟩

theorem CvssInfo.collects (origin : Origin) :
    Collects (fun ms => CvssInfo.read origin (.object ms)) ((fields origin).map Field.part) := ⟨CvssInfo.mk, rfl⟩

theorem Vulnerability.collects (origin : Origin) :
    Collects (fun ms => Vulnerability.read origin (.object ms)) ((fields origin).map Field.part) :=
  ⟨Vulnerability.mk, rfl⟩

end Trivy

section

variable {C : MemberChange} {R : Likeness}
  (hR : Comparison R) (hC : Keeps C R)

include hR hC

theorem Scanner.respects : Respects C R (.ofFields Scanner.fields) Scanner.read :=
  .model hR hC Scanner.collects (by decide) (by simp [Scanner.fields, Respects.whole])

theorem Artifact.respects : Respects C R (.ofFields Artifact.fields) Artifact.read :=
  .model hR hC Artifact.collects (by decide) (by simp [Artifact.fields, Respects.whole])

theorem Layer.respects : Respects C R (.ofFields Layer.fields) Layer.read :=
  .model hR hC Layer.collects (by decide) (by simp [Layer.fields, Respects.whole])

theorem VulnerabilityItem.respects : Respects C R (.ofFields VulnerabilityItem.fields) VulnerabilityItem.read := by
  have hlayer := Respects.optional hR (Layer.respects hR hC)
  exact .model hR hC VulnerabilityItem.collects (by decide) (by simp [fields, Respects.whole, hlayer])

theorem ScanReport.respects (origin : Origin) :
    Respects C R (.ofFields (ScanReport.fields origin)) (ScanReport.read origin) := by
  have hscanner := Scanner.respects hR hC
  have hartifact := Artifact.respects hR hC
  have hitems := Respects.list hR (VulnerabilityItem.respects hR hC)
  exact .model hR hC (ScanReport.collects origin) (by cases origin <;> decide)
    (by simp [fields, Respects.whole, hscanner, hartifact, hitems])

theorem ScanJob.respects (origin : Origin) :
    Respects C R (.ofFields (ScanJob.fields origin)) (ScanJob.read origin) := by
  have hreport := Respects.optional hR (ScanReport.respects hR hC origin)
  exact .model hR hC (ScanJob.collects origin) (by cases origin <;> decide) (by simp [fields, Respects.whole, hreport])

namespace Trivy

theorem Layer.respects : Respects C R (.ofFields Layer.fields) Layer.read :=
  .model hR hC Layer.collects (by decide) (by simp [Layer.fields, Respects.whole])

theorem CvssInfo.respects (origin : Origin) :
    Respects C R (.ofFields (CvssInfo.fields origin)) (CvssInfo.read origin) :=
  .model hR hC (CvssInfo.collects origin) (by cases origin <;> decide) (by simp [CvssInfo.fields, Respects.whole])

theorem Vulnerability.respects (origin : Origin) :
    Respects C R (.ofFields (Vulnerability.fields origin)) (Vulnerability.read origin) := by
  have hlayer := Respects.optional hR (Layer.respects hR hC)
  have hcvss := Respects.mapOf hR (CvssInfo.respects hR hC origin)
  exact .model hR hC (Vulnerability.collects origin) (by cases origin <;> decide)
    (by simp [fields, Respects.whole, hlayer, hcvss])

end Trivy

end

/-! ## What is free-form -/

theorem Validated.Yields.members_names {α : Type} (read : Json → Validated α) (ms : Members) :
    (Validated.members read ms).Yields fun es => es.map (·.1) = ms.map (·.1) := by
  induction ms with
  | nil => exact .accepted rfl
  | cons m ms ih =>
    obtain ⟨name, v⟩ := m
    have hentry : (((read v).under (.name name)).map fun a => (name, a)).Yields fun e => e.1 = name :=
      .map fun _ _ => rfl
    refine .seq (.map fun e he es hes => ?_) ih
    rw [List.map_cons, List.map_cons, hentry e he, hes]

/-- Attributes keep the order in which they were given. -/
theorem VulnerabilityItem.yields_attributes {ms as : Members} (h : ms.get? "vendor_attributes" = some (.object as)) :
    (VulnerabilityItem.read (.object ms)).Yields fun i => i.vendorAttributes = as := by
  have hfield : ((FieldName.plain "vendor_attributes").orElse [] freeForm ms).Yields (· = as) := by
    have hfind : (FieldName.plain "vendor_attributes").find? ms = some ("vendor_attributes", .object as) := by
      simp [FieldName.find?, FieldName.plain, h]
    rw [FieldName.orElse, hfind]
    exact .under (.accepted rfl)
  refine .model fun ms' hms => ?_
  cases hms
  refine .seq (.seq_any <| .seq_any <| .seq_any <| .seq_any <| .seq_any <| .seq_any <| .seq_any <| .seq_any <|
    .map fun _ _ _ _ _ _ _ _ _ _ as' has => ?_) hfield
  exact has

/-- Sources keep the order in which they were given. -/
theorem Trivy.Vulnerability.yields_sources (origin : Origin) {ms sources : Members} {name : String}
    (h : (FieldName.aliased "cvss" "CVSS").find? ms = some (name, .object sources)) :
    (Vulnerability.read origin (.object ms)).Yields fun v => v.cvss.map (·.1) = sources.map (·.1) := by
  have hfield : ((FieldName.aliased "cvss" "CVSS").orElse [] (mapOf (CvssInfo.read origin)) ms).Yields
      fun cvss => cvss.map (·.1) = sources.map (·.1) := by
    rw [FieldName.orElse, h]
    exact .under (.members_names _ sources)
  refine .model fun ms' hms => ?_
  cases hms
  refine .seq_any (.seq (.seq_any <| .seq_any <| .seq_any <| .seq_any <| .seq_any <| .seq_any <| .seq_any <| .seq_any <|
    .seq_any <| .map fun _ _ _ _ _ _ _ _ _ _ _ cvss hcvss _ => ?_) hfield)
  exact hcvss

/-! ## All models -/

namespace WireModel

/-- How a value is read that was given as such, or stands in a JSON text. -/
def readFrom (origin : Origin) : (m : WireModel) → Json → Validated m.Value
  | scanJob => ScanJob.read origin
  | scanReport => ScanReport.read origin
  | vulnerabilityItem => VulnerabilityItem.read
  | layer => Layer.read
  | scanner => Scanner.read
  | artifact => Artifact.read
  | trivyVulnerability => Trivy.Vulnerability.read origin
  | trivyLayer => Trivy.Layer.read
  | cvssInfo => Trivy.CvssInfo.read origin

theorem readFrom_text (m : WireModel) : m.readFrom .text = m.read := by cases m <;> rfl

/-- The fields of a model in the order in which they are declared. -/
def fields (origin : Origin) : WireModel → List Field
  | scanJob => ScanJob.fields origin
  | scanReport => ScanReport.fields origin
  | vulnerabilityItem => VulnerabilityItem.fields
  | layer => Layer.fields
  | scanner => Scanner.fields
  | artifact => Artifact.fields
  | trivyVulnerability => Trivy.Vulnerability.fields origin
  | trivyLayer => Trivy.Layer.fields
  | cvssInfo => Trivy.CvssInfo.fields origin

/-- How models lie in a value of the model. -/
def shape (origin : Origin) (m : WireModel) : Shape := .ofFields (m.fields origin)

theorem collects (m : WireModel) (origin : Origin) :
    Collects (fun ms => m.readFrom origin (.object ms)) ((m.fields origin).map Field.part) := by
  cases m with
  | scanJob => exact ScanJob.collects origin
  | scanReport => exact ScanReport.collects origin
  | vulnerabilityItem => exact VulnerabilityItem.collects
  | layer => exact Layer.collects
  | scanner => exact Scanner.collects
  | artifact => exact Artifact.collects
  | trivyVulnerability => exact Trivy.Vulnerability.collects origin
  | trivyLayer => exact Trivy.Layer.collects
  | cvssInfo => exact Trivy.CvssInfo.collects origin

theorem respects {C : MemberChange} {R : Likeness}
    (hR : Comparison R) (hC : Keeps C R) (m : WireModel) (origin : Origin) :
    Respects C R (m.shape origin) (m.readFrom origin) := by
  cases m with
  | scanJob => exact ScanJob.respects hR hC origin
  | scanReport => exact ScanReport.respects hR hC origin
  | vulnerabilityItem => exact VulnerabilityItem.respects hR hC
  | layer => exact Layer.respects hR hC
  | scanner => exact Scanner.respects hR hC
  | artifact => exact Artifact.respects hR hC
  | trivyVulnerability => exact Trivy.Vulnerability.respects hR hC origin
  | trivyLayer => exact Trivy.Layer.respects hR hC
  | cvssInfo => exact Trivy.CvssInfo.respects hR hC origin

/-- **A model sees its fields and nothing else of an object. The order of the members, members that no field goes by,
and members under a field's own name beside its name in the data make no difference, in the object or in any model
that lies in it: the same value is accepted, to be written as the same text, or the same errors are found. A field
that is written under its own name gives the same value. An object is refused exactly if a field that must be there
is absent or the value of a field is refused, with the errors of the fields in the order in which they are declared.
What is free-form keeps the order of its members.** -/
theorem reads_fields_only (m : WireModel) (origin : Origin) :
    (∀ v w, EqvGen ((m.shape origin).Changes Unseen) v w → m.readFrom origin v = m.readFrom origin w) ∧
    (∀ v w, EqvGen ((m.shape origin).Changes fun fields ms ms' => Unseen fields ms ms' ∨ Renamed fields ms ms') v w →
      ∀ a, m.readFrom origin v = .accepted a ↔ m.readFrom origin w = .accepted a) ∧
    (∀ ms ds, m.readFrom origin (.object ms) = .refused ds ↔
      (∃ x ∈ m.fields origin, x.IsBad ms) ∧ ds = (m.fields origin).flatMap fun x => x.errors ms) ∧
    (∀ (ms : Members) as i, ms.get? "vendor_attributes" = some (.object as) →
      VulnerabilityItem.read (.object ms) = .accepted i → i.vendorAttributes = as) ∧
    (∀ ms name sources v, (FieldName.aliased "cvss" "CVSS").find? ms = some (name, .object sources) →
      Trivy.Vulnerability.read origin (.object ms) = .accepted v → v.cvss.map (·.1) = sources.map (·.1)) := by
  refine ⟨?_, ?_, ?_, ?_, ?_⟩
  · intro v w hchanges
    exact (m.respects .eq (keeps_unseen .eq) origin).eqvGen eq_equivalence hchanges
  · intro v w hchanges
    have hkeeps := Keeps.or (keeps_unseen .sameValue) keeps_renamed
    exact (m.respects .sameValue hkeeps origin).eqvGen (SameValue.equivalence _) hchanges
  · intro ms ds
    exact (m.collects origin).fields_refused_iff ms ds
  · intro ms as i hattributes hread
    exact VulnerabilityItem.yields_attributes hattributes i hread
  · intro ms name sources v hcvss hread
    exact Trivy.Vulnerability.yields_sources origin hcvss v hread

/-- A finding with a member of its own, and with a severity under either name. -/
def looseFinding : Json :=
  .object [("Colour", .string "red"), ("severity", .int 5), ("Severity", .string "HIGH"),
    ("CVSS", .object [("nvd", .object [("V3Score", .int 9)])])]

/-- The finding without what no field sees, in another order. -/
def plainFinding : Json :=
  .object [("CVSS", .object [("nvd", .object [("V3Score", .int 9)])]), ("Severity", .string "HIGH")]

/-- The finding with a score under the field's own name. -/
def renamedFinding : Json :=
  .object [("CVSS", .object [("nvd", .object [("v3_score", .int 9)])]), ("Severity", .string "HIGH")]

theorem unseen_plainFinding :
    EqvGen ((shape .value trivyVulnerability).Changes Unseen) looseFinding plainFinding := by
  let cvss := ("CVSS", Json.object [("nvd", .object [("V3Score", .int 9)])])
  let severity := ("Severity", Json.string "HIGH")
  have hstranger := @Unseen.stranger ((Trivy.Vulnerability.fields .value).map Field.name) []
    [("severity", .int 5), severity, cvss] "Colour" (.string "red") (by decide)
  have hcovered := @Unseen.covered ((Trivy.Vulnerability.fields .value).map Field.name) [] [severity, cvss]
    (.aliased "severity" "Severity") "Severity" (.int 5) (by decide) rfl (by decide)
  have horder := @Unseen.order ((Trivy.Vulnerability.fields .value).map Field.name) [severity, cvss] [cvss, severity]
    (.swap _ _ _) (by decide)
  exact .trans _ _ _ (.symm _ _ (.rel _ _ (.here hstranger)))
    (.trans _ _ _ (.symm _ _ (.rel _ _ (.here hcovered))) (.rel _ _ (.here horder)))

theorem renamed_renamedFinding :
    (shape .value trivyVulnerability).Changes (fun fields ms ms' => Unseen fields ms ms' ∨ Renamed fields ms ms')
      plainFinding renamedFinding := by
  have hrenamed := @Renamed.own ((Trivy.CvssInfo.fields .value).map Field.name) [] [] (.aliased "v3_score" "V3Score")
    "V3Score" (.int 9) (by decide) rfl (by decide) (by decide)
  have hentry := @Shape.Changes.entry (fun fields ms ms' => Unseen fields ms ms' ∨ Renamed fields ms ms')
    (.ofFields (Trivy.CvssInfo.fields .value)) [] [] "nvd" _ _ (.here (.inr hrenamed))
  refine @Shape.Changes.field _ _ (.aliased "cvss" "CVSS") _ [] _ "CVSS" _ _ ?_ (by decide) hentry
  simp [fields, Trivy.Vulnerability.fields]

/-- What no field sees makes no difference to a finding, nor does a score under its own name; and an item without an
identity and with a version that is no text has these two errors. -/
theorem reads_fields_only_finding :
    trivyVulnerability.readFrom .value looseFinding = trivyVulnerability.readFrom .value plainFinding ∧
    (∀ a, trivyVulnerability.readFrom .value plainFinding = .accepted a ↔
      trivyVulnerability.readFrom .value renamedFinding = .accepted a) ∧
    vulnerabilityItem.readFrom .value (.object [("installed_version", .null), ("package", .string "openssl")]) =
      .refused [⟨[.name "id"], .missing⟩, ⟨[.name "installed_version"], .notText⟩] := by
  obtain ⟨hunseen, hrenamed, -⟩ := reads_fields_only trivyVulnerability .value
  obtain ⟨-, -, hrefused, -⟩ := reads_fields_only vulnerabilityItem .value
  refine ⟨hunseen _ _ unseen_plainFinding, hrenamed _ _ (.rel _ _ renamed_renamedFinding), ?_⟩
  exact (hrefused _ _).2 ⟨⟨_, .head _, rfl⟩, by decide⟩

end WireModel

end ScanAdapter
