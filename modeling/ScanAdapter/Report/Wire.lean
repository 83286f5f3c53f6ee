import ScanAdapter.Report.Basic
import ScanAdapter.Validation.Scalar
import ScanAdapter.Json.Writer

/-!
# Reports as data

A report is read from data field by field, in the order in which its fields are declared, and written in this order
with every field under its name in the data. The version of a vulnerable package is called `version` in the data, and
may also go by its field name. Only the free-form attributes can keep a report from being written.

| here | there |
| --- | --- |
| `Severity.read` | `SeverityField`, read through `_parse_severity` |
| `Scanner.read` to `ScanReport.read` | `model_validate` of these models |
| `Scanner.toJson` to `ScanReport.toJson` | `model_dump` by alias |
| `ScanReport.write` | `model_dump_json` by alias |
-/
namespace ScanAdapter

/-! ## Reading -/

/-- A severity is a label, or a rank in any form that equals one. -/
def Severity.read : Json → Validated Severity
  | .string s =>
    match Severity.ofLabel? s with
    | some v => .accepted v
    | none => .refuse (.rejected (Severity.unknownLabel s))
  | .number (.int n) => if Number.fits64 n then ofRank n else .refuse .integerTooLarge
  | .number (.float x) =>
    match x.toInt? with
    | some n => ofRank n
    | none => unlisted
  | .bool b => .accepted (if b then .low else .unknown)
  | _ => unlisted
where
  unlisted : Validated Severity := .refuse (.notListed "0, 1, 2, 3 or 4")
  ofRank (n : Int) : Validated Severity :=
    match Severity.ofRank? n with
    | some v => .accepted v
    | none => unlisted

open Validated

def Scanner.read : Json → Validated Scanner :=
  model "Scanner" fun ms => Scanner.mk
    <$> (FieldName.plain "name").required text ms
    <*> (FieldName.plain "vendor").required text ms
    <*> (FieldName.plain "version").required text ms

def Artifact.read : Json → Validated Artifact :=
  model "Artifact" fun ms => Artifact.mk
    <$> (FieldName.plain "repository").required text ms
    <*> (FieldName.plain "digest").required text ms
    <*> (FieldName.plain "tag").orElse none (optional text) ms
    <*> (FieldName.plain "mime_type").orElse none (optional text) ms

def Layer.read : Json → Validated Layer :=
  model "Layer" fun ms => Layer.mk
    <$> (FieldName.plain "digest").orElse none (optional text) ms
    <*> (FieldName.plain "diff_id").orElse none (optional text) ms

def VulnerabilityItem.read : Json → Validated VulnerabilityItem :=
  model "VulnerabilityItem" fun ms => VulnerabilityItem.mk
    <$> (FieldName.plain "id").required text ms
    <*> (FieldName.plain "package").required text ms
    <*> (FieldName.aliased "installed_version" "version").orElse "" text ms
    <*> (FieldName.plain "fix_version").orElse "" text ms
    <*> (FieldName.plain "severity").orElse .unknown Severity.read ms
    <*> (FieldName.plain "description").orElse "" text ms
    <*> (FieldName.plain "links").orElse [] (list text) ms
    <*> (FieldName.plain "layer").orElse none (optional Layer.read) ms
    <*> (FieldName.plain "cwe_ids").orElse [] (list text) ms
    <*> (FieldName.plain "vendor_attributes").orElse [] freeForm ms

def ScanReport.read (origin : Origin) : Json → Validated ScanReport :=
  model "ScanReport" fun ms => ScanReport.mk
    <$> (FieldName.plain "generated_at").required (moment origin) ms
    <*> (FieldName.plain "scanner").required Scanner.read ms
    <*> (FieldName.plain "artifact").required Artifact.read ms
    <*> (FieldName.plain "severity").orElse .unknown Severity.read ms
    <*> (FieldName.plain "vulnerabilities").orElse [] (list VulnerabilityItem.read) ms

/-! ## Writing -/

def Scanner.toJson (s : Scanner) : Json :=
  .object [("name", .string s.name), ("vendor", .string s.vendor), ("version", .string s.version)]

def Artifact.toJson (a : Artifact) : Json :=
  .object [("repository", .string a.repository), ("digest", .string a.digest),
    ("tag", .optionalString a.tag), ("mime_type", .optionalString a.mimeType)]

def Layer.toJson (l : Layer) : Json :=
  .object [("digest", .optionalString l.digest), ("diff_id", .optionalString l.diffId)]

def VulnerabilityItem.toJson (i : VulnerabilityItem) : Json :=
  .object [("id", .string i.id), ("package", .string i.package),
    ("version", .string i.installedVersion), ("fix_version", .string i.fixVersion),
    ("severity", .string i.severity.label), ("description", .string i.description),
    ("links", .array (i.links.map .string)), ("layer", (i.layer.map Layer.toJson).getD .null),
    ("cwe_ids", .array (i.cweIds.map .string)), ("vendor_attributes", .object i.vendorAttributes)]

def ScanReport.toJson (r : ScanReport) : Json :=
  .object [("generated_at", .string r.generatedAt.text), ("scanner", r.scanner.toJson),
    ("artifact", r.artifact.toJson), ("severity", .string r.severity.label),
    ("vulnerabilities", .array (r.vulnerabilities.map VulnerabilityItem.toJson))]

/-- What keeps an item from being written. -/
def VulnerabilityItem.fault? (i : VulnerabilityItem) : Option Json.WriteFault :=
  Json.faultInMembers? Json.writeDepth i.vendorAttributes

/-- What keeps a report from being written: the first fault of its items. -/
def ScanReport.fault? (r : ScanReport) : Option Json.WriteFault :=
  r.vulnerabilities.findSome? VulnerabilityItem.fault?

/-- The text of a value in JSON form, unless something keeps it from being written. -/
def Json.renderUnless (fault : Option Json.WriteFault) (v : Json) : Except Json.WriteFault String :=
  match fault with
  | some f => .error f
  | none => .ok v.render

def VulnerabilityItem.write (i : VulnerabilityItem) : Except Json.WriteFault String :=
  i.toJson.renderUnless i.fault?

def ScanReport.write (r : ScanReport) : Except Json.WriteFault String :=
  r.toJson.renderUnless r.fault?

end ScanAdapter
