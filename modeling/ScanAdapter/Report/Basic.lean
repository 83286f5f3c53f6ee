import ScanAdapter.Severity
import ScanAdapter.Time.Moment
import ScanAdapter.Json.Value

/-!
# Reports

The report that is served for a scanned artifact: who scanned what and when, the vulnerabilities that
were found, and the highest severity among them.

| here | there |
| --- | --- |
| `Scanner`, `Artifact`, `Layer`, `VulnerabilityItem`, `ScanReport` | the models of the same names |
| `countOne` | a round of the loop of `calculate_vulnerability_stats` |
| `ScanReport.statistics` | `calculate_vulnerability_stats` |
-/
namespace ScanAdapter

/-- The program that scanned. -/
structure Scanner where
  name : String
  vendor : String
  version : String
  deriving DecidableEq, Repr

/-- What was scanned. -/
structure Artifact where
  repository : String
  digest : String
  tag : Option String
  mimeType : Option String
  deriving DecidableEq, Repr

/-- The layer of an image that brought a vulnerable package in. -/
structure Layer where
  digest : Option String
  diffId : Option String
  deriving DecidableEq, Repr

structure VulnerabilityItem where
  id : String
  package : String
  installedVersion : String
  /-- Empty when there is no fix. -/
  fixVersion : String
  severity : Severity
  description : String
  links : List String
  layer : Option Layer
  cweIds : List String
  /-- What the scanner adds of its own. -/
  vendorAttributes : Members
  deriving Repr

structure ScanReport where
  generatedAt : Moment
  scanner : Scanner
  artifact : Artifact
  severity : Severity
  vulnerabilities : List VulnerabilityItem
  deriving Repr

/-! ## Statistics

How many vulnerabilities a report has, in all and of each severity, and the highest severity as the report itself
states it. -/

structure Statistics where
  /-- The number of vulnerabilities by the label of their severity, from the least severe on. -/
  counts : Entries Nat
  total : Nat
  highest : Severity
  deriving DecidableEq, Repr

namespace Statistics

/-- No vulnerability of any severity. -/
def noCounts : Entries Nat := Severity.all.map fun v => (v.label, 0)

/-- One more under a label. -/
def countOne (counts : Entries Nat) (label : String) : Entries Nat :=
  counts.put label ((counts.get? label).getD 0 + 1)

def toJson (s : Statistics) : Json :=
  .object [("severity_counts", .object (s.counts.map fun c => (c.1, .nat c.2))),
    ("total_vulnerabilities", .nat s.total), ("highest_severity", .string s.highest.label)]

end Statistics

def ScanReport.statistics (r : ScanReport) : Statistics where
  counts := r.vulnerabilities.foldl (fun counts i => Statistics.countOne counts i.severity.label) Statistics.noCounts
  total := r.vulnerabilities.length
  highest := r.severity

end ScanAdapter
