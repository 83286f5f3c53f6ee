import ScanAdapter.Validation.Scalar
import ScanAdapter.Json.Writer

/-!
# Trivy's findings

The part of a Trivy report that is used. Fields are named as in that report, may also go by their own
names, and have empty values where they are absent.

| here | there |
| --- | --- |
| `Layer`, `CvssInfo`, `Vulnerability` | `TrivyLayer`, `CVSSInfo`, `TrivyVulnerability` |
| `Layer.read` to `Vulnerability.read` | `model_validate` of these models |
| `Layer.toJson` to `Vulnerability.toJson` | `model_dump` by alias |
-/
namespace ScanAdapter.Trivy

structure Layer where
  digest : Option String
  diffId : Option String
  deriving DecidableEq, Repr

/-- The scores that a source gives to a vulnerability. -/
structure CvssInfo where
  v2Vector : Option String
  v3Vector : Option String
  v2Score : Option Binary64
  v3Score : Option Binary64
  deriving DecidableEq, Repr

structure Vulnerability where
  vulnerabilityId : String
  pkgName : String
  installedVersion : String
  fixedVersion : String
  title : String
  description : String
  severity : String
  primaryUrl : String
  references : Option (List String)
  layer : Option Layer
  /-- The scores by source. -/
  cvss : List (String × CvssInfo)
  cweIds : List String
  deriving DecidableEq, Repr

/-! ## Reading -/

open Validated

def Layer.read : Json → Validated Layer :=
  model "TrivyLayer" fun ms => Layer.mk
    <$> (FieldName.aliased "digest" "Digest").orElse none (optional text) ms
    <*> (FieldName.aliased "diff_id" "DiffID").orElse none (optional text) ms

def CvssInfo.read (origin : Origin) : Json → Validated CvssInfo :=
  model "CVSSInfo" fun ms => CvssInfo.mk
    <$> (FieldName.aliased "v2_vector" "V2Vector").orElse none (optional text) ms
    <*> (FieldName.aliased "v3_vector" "V3Vector").orElse none (optional text) ms
    <*> (FieldName.aliased "v2_score" "V2Score").orElse none (optional (float origin)) ms
    <*> (FieldName.aliased "v3_score" "V3Score").orElse none (optional (float origin)) ms

def Vulnerability.read (origin : Origin) : Json → Validated Vulnerability :=
  model "TrivyVulnerability" fun ms => Vulnerability.mk
    <$> (FieldName.aliased "vulnerability_id" "VulnerabilityID").orElse "" text ms
    <*> (FieldName.aliased "pkg_name" "PkgName").orElse "" text ms
    <*> (FieldName.aliased "installed_version" "InstalledVersion").orElse "" text ms
    <*> (FieldName.aliased "fixed_version" "FixedVersion").orElse "" text ms
    <*> (FieldName.aliased "title" "Title").orElse "" text ms
    <*> (FieldName.aliased "description" "Description").orElse "" text ms
    <*> (FieldName.aliased "severity" "Severity").orElse "UNKNOWN" text ms
    <*> (FieldName.aliased "primary_url" "PrimaryURL").orElse "" text ms
    <*> (FieldName.aliased "references" "References").orElse none (optional (list text)) ms
    <*> (FieldName.aliased "layer" "Layer").orElse none (optional Layer.read) ms
    <*> (FieldName.aliased "cvss" "CVSS").orElse [] (mapOf (CvssInfo.read origin)) ms
    <*> (FieldName.aliased "cwe_ids" "CweIDs").orElse [] (list text) ms

/-! ## Writing -/

def Layer.toJson (l : Layer) : Json :=
  .object [("Digest", .optionalString l.digest), ("DiffID", .optionalString l.diffId)]

def CvssInfo.toJson (c : CvssInfo) : Json :=
  .object [("V2Vector", .optionalString c.v2Vector), ("V3Vector", .optionalString c.v3Vector),
    ("V2Score", (c.v2Score.map .float).getD .null), ("V3Score", (c.v3Score.map .float).getD .null)]

def Vulnerability.toJson (v : Vulnerability) : Json :=
  .object [("VulnerabilityID", .string v.vulnerabilityId), ("PkgName", .string v.pkgName),
    ("InstalledVersion", .string v.installedVersion), ("FixedVersion", .string v.fixedVersion),
    ("Title", .string v.title), ("Description", .string v.description),
    ("Severity", .string v.severity), ("PrimaryURL", .string v.primaryUrl),
    ("References", (v.references.map fun rs => .array (rs.map .string)).getD .null),
    ("Layer", (v.layer.map Layer.toJson).getD .null),
    ("CVSS", .object (v.cvss.map fun c => (c.1, c.2.toJson))),
    ("CweIDs", .array (v.cweIds.map .string))]

end ScanAdapter.Trivy
