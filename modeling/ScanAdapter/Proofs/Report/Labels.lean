import ScanAdapter.Proofs.Text.Capitals
import ScanAdapter.Proofs.Wire.Decoded

/-!
# Labels of severities

A label is taken in any case, and case is a matter of all of Unicode. Yet a text names a severity only if it has the
letters of its name, each in a case of ASCII, or with a dotless i for an I (`Severity.ofLabel?_eq_some_iff`). Every
other text is refused and shown, and whatever case a severity is given in, it is written back as its label.
-/
namespace ScanAdapter

namespace Severity

theorem isPlainCapital_name (v : Severity) : ∀ d ∈ v.name.toList, Text.IsPlainCapital d := by
  cases v <;> simp [Text.IsPlainCapital, name]

/-- A text names a severity exactly if it is its name in some case. -/
theorem ofLabel?_eq_some_iff {s : String} {v : Severity} :
    ofLabel? s = some v ↔ List.Forall₂ Text.IsCaseOf s.toList v.name.toList := by
  rw [← Text.upper_eq_iff v.isPlainCapital_name]
  constructor
  · intro h
    have hname := List.find?_some h
    exact (eq_of_beq hname).symm
  · intro h
    rw [ofLabel?, h]
    cases v <;> decide

theorem unknownLabel_eq (s : String) : unknownLabel s = "Unknown severity label: " ++ s := by
  unfold unknownLabel
  rfl

theorem read_label {s : String} {v : Severity} (h : ofLabel? s = some v) :
    Severity.read (.string s) = .accepted v := by rw [Severity.read, h]

theorem read_unknownLabel {s : String} (h : ofLabel? s = none) :
    Severity.read (.string s) = .refuse (.rejected (unknownLabel s)) := by rw [Severity.read, h]

/-- A character with several capitals is in no label. -/
theorem ofLabel?_eq_none_of_length {s : String} {c : Char} (hc : c ∈ s.toList) (h : (Text.upperChar c).length ≠ 1) :
    ofLabel? s = none := by
  cases hlabel : ofLabel? s with
  | none => rfl
  | some v =>
    obtain ⟨d, hd, hplain⟩ := Text.exists_not_plain_of_length h
    have hupper := (Text.upper_eq_iff v.isPlainCapital_name).2 (ofLabel?_eq_some_iff.1 hlabel)
    have hmem : d ∈ v.name.toList := by
      rw [← hupper, Text.upper, String.toList_ofList]
      exact List.mem_flatMap_of_mem hc hd
    exact absurd (v.isPlainCapital_name d hmem) hplain

end Severity

/-! ## The severity of a model -/

section

variable {ms : Members} {s : String} {v : Severity}

theorem Severity.field_of_label (hs : ms.get? "severity" = some (.string s)) (h : ofLabel? s = some v) :
    ((FieldName.plain "severity").orElse .unknown Severity.read ms).Yields (· = v) := by
  have hfind : (FieldName.plain "severity").find? ms = some ("severity", .string s) := by
    simp [FieldName.find?, FieldName.plain, hs]
  rw [FieldName.orElse_of_find? hfind (read_label h)]
  exact .accepted rfl

theorem VulnerabilityItem.severity_of_label (hs : ms.get? "severity" = some (.string s))
    (h : Severity.ofLabel? s = some v) : (VulnerabilityItem.read (.object ms)).Yields fun i => i.severity = v := by
  refine .model fun ms' hms => ?_
  cases hms
  -- the five fields after the severity are not asked for, nor are the four before it
  refine .seq_any (.seq_any (.seq_any (.seq_any (.seq_any (.seq (.seq_any (.seq_any (.seq_any (.map ?_))))
    (Severity.field_of_label hs h))))))
  intro id _ package installedVersion fixVersion severity hseverity description links layer cweIds vendorAttributes
  exact hseverity

theorem ScanReport.severity_of_label {origin : Origin} (hs : ms.get? "severity" = some (.string s))
    (h : Severity.ofLabel? s = some v) : (ScanReport.read origin (.object ms)).Yields fun r => r.severity = v := by
  refine .model fun ms' hms => ?_
  cases hms
  refine .seq_any (.seq (.seq_any (.seq_any (.map ?_))) (Severity.field_of_label hs h))
  intro generatedAt _ scanner artifact severity hseverity vulnerabilities
  exact hseverity

end

/-- **A text is taken for a severity exactly if it is the severity's name with each letter in a case of ASCII, or
with a dotless i for an I. Every other text is refused and shown, also one with a character that has several
capitals; and the severity of an item or of a report that was given in any case is written as its label.** -/
theorem Severity.labels_in_any_case (s : String) :
    (∀ v : Severity, ofLabel? s = some v ↔ List.Forall₂ Text.IsCaseOf s.toList v.name.toList) ∧
    ((∀ v : Severity, ¬ List.Forall₂ Text.IsCaseOf s.toList v.name.toList) → ofLabel? s = none ∧
      Severity.read (.string s) = .refuse (.rejected (unknownLabel s)) ∧
      unknownLabel s = "Unknown severity label: " ++ s) ∧
    (∀ c ∈ s.toList, (Text.upperChar c).length ≠ 1 → ofLabel? s = none) ∧
    (∀ v : Severity, ofLabel? v.label = some v) ∧
    ∀ v : Severity, ofLabel? s = some v → Severity.read (.string s) = .accepted v ∧
      ∀ ms : Members, ms.get? "severity" = some (.string s) →
        (∀ i, VulnerabilityItem.read (.object ms) = .accepted i →
          i.severity = v ∧ Json.at [.name "severity"] i.toJson = .string v.label) ∧
        ∀ origin r, ScanReport.read origin (.object ms) = .accepted r →
          r.severity = v ∧ Json.at [.name "severity"] r.toJson = .string v.label := by
  refine ⟨?_, ?_, ?_, ofLabel?_label, ?_⟩
  · intro v
    exact ofLabel?_eq_some_iff
  · intro hnot
    have hnone : ofLabel? s = none :=
      Option.eq_none_iff_forall_not_mem.2 fun v hv => hnot v (ofLabel?_eq_some_iff.1 hv)
    exact ⟨hnone, read_unknownLabel hnone, unknownLabel_eq s⟩
  · intro c hc hlength
    exact ofLabel?_eq_none_of_length hc hlength
  · intro v hv
    refine ⟨read_label hv, fun ms hms => ⟨fun i hi => ?_, fun origin r hr => ?_⟩⟩
    · obtain rfl := VulnerabilityItem.severity_of_label hms hv i hi
      exact ⟨rfl, rfl⟩
    · obtain rfl := ScanReport.severity_of_label hms hv r hr
      exact ⟨rfl, rfl⟩

/-- Labels with dotless letters, and a text with a ligature. -/
theorem Severity.labels_in_any_case_dotless : ofLabel? "CR\u0131t\u0131cal" = some critical ∧
    Severity.read (.string "\uFB03") = .refuse (.rejected (unknownLabel "\uFB03")) ∧
    ∀ i, VulnerabilityItem.read (.object [("severity", .string "h\u0131GH"), ("id", .string "CVE-2024-1"),
      ("package", .string "openssl")]) = .accepted i → Json.at [.name "severity"] i.toJson = .string "High" := by
  refine ⟨?_, ?_, ?_⟩
  · exact ((labels_in_any_case "CR\u0131t\u0131cal").1 critical).2 (by simp [Text.IsCaseOf, name])
  · obtain ⟨hnames, hother, hseveral, -, -⟩ := labels_in_any_case "\uFB03"
    have hnone : ofLabel? "\uFB03" = none := hseveral '\uFB03' (by simp) (by decide +kernel)
    refine (hother fun v hv => ?_).2.1
    have hsome := (hnames v).2 hv
    rw [hnone] at hsome
    cases hsome
  · intro i hi
    obtain ⟨hnames, -, -, -, hwritten⟩ := labels_in_any_case "h\u0131GH"
    have hhigh : ofLabel? "h\u0131GH" = some high := (hnames high).2 (by simp [Text.IsCaseOf, name])
    exact (((hwritten high hhigh).2 _ rfl).1 i hi).2

end ScanAdapter
