import ScanAdapter.Store.Program
import ScanAdapter.Report.Basic

/-!
# Trivy's findings as a report

Each finding becomes one item of the report, in its place. What a finding does not say becomes an
empty value, and a severity that is none of Trivy's becomes unknown and is remarked upon in the log.

| here | there |
| --- | --- |
| `severities` | `TRIVY_SEVERITIES` |
| `severityOf`, `severityWarnings` | `to_severity`: what it returns, what it logs |
| `links`, `Layer.normalized` | `to_links`, `to_layer` |
| `vendorAttributes`, `CvssInfo.attributes` | `to_vendor_attributes`, the dump of one source |
| `Vulnerability.normalized`, `report` | an item, and the report, of `transform` |
| `transform` | `TrivyTransformer.transform` |
-/
namespace ScanAdapter.Trivy

/-- Trivy's words for severities; only these spellings are known. -/
def severities : List (String × Severity) :=
  [("CRITICAL", .critical), ("HIGH", .high), ("MEDIUM", .medium), ("LOW", .low), ("UNKNOWN", .unknown)]

def severityOf (word : String) : Severity := (severities.lookup word).getD .unknown

def unknownSeverity (word : String) : LogLine :=
  ⟨.warning, .trivyAdapter, s!"Unknown trivy severity: {Text.quoted word}"⟩

/-- What is remarked upon a severity. -/
def severityWarnings (word : String) : List LogLine :=
  match severities.lookup word with
  | some _ => []
  | none => [unknownSeverity word]

/-- The primary link alone if there is one, else the references. -/
def links (primaryUrl : String) (references : Option (List String)) : List String :=
  if primaryUrl ≠ "" then [primaryUrl] else references.getD []

def Layer.normalized (l : Layer) : ScanAdapter.Layer := ⟨l.digest, l.diffId⟩

/-- The scores and vectors that are there. -/
def CvssInfo.attributes (c : CvssInfo) : Members :=
  [("V2Vector", c.v2Vector.map Json.string), ("V3Vector", c.v3Vector.map Json.string),
    ("V2Score", c.v2Score.map Json.float), ("V3Score", c.v3Score.map Json.float)].filterMap
    fun m => m.2.map fun v => (m.1, v)

/-- The scores of all sources under one name, nothing if there is no source. -/
def vendorAttributes (cvss : List (String × CvssInfo)) : Members :=
  if cvss.isEmpty then [] else [("CVSS", .object (cvss.map fun c => (c.1, .object c.2.attributes)))]

def Vulnerability.normalized (v : Vulnerability) : VulnerabilityItem where
  id := v.vulnerabilityId
  package := v.pkgName
  installedVersion := v.installedVersion
  fixVersion := v.fixedVersion
  severity := severityOf v.severity
  description := v.description
  links := links v.primaryUrl v.references
  layer := v.layer.map Layer.normalized
  cweIds := v.cweIds
  vendorAttributes := vendorAttributes v.cvss

/-- The report on an artifact. -/
def report (now : Moment) (scanner : Scanner) (artifact : Artifact) (vs : List Vulnerability) :
    ScanReport :=
  let items := vs.map Vulnerability.normalized
  ⟨now, scanner, artifact, Severity.highest (items.map (·.severity)), items⟩

/-- What is remarked upon the findings of a report. -/
def warnings (vs : List Vulnerability) : List LogLine := vs.flatMap fun v => severityWarnings v.severity

/-- Make a report on an artifact. The time is looked at when the items are there. -/
def transform (scanner : Scanner) (artifact : Artifact) (vs : List Vulnerability) : Program ScanReport := do
  .logAll (warnings vs)
  let now ← Program.currentTime
  pure (report now scanner artifact vs)

end ScanAdapter.Trivy
