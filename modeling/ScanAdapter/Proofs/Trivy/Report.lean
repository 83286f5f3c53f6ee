import ScanAdapter.Proofs.Severity
import ScanAdapter.Trivy.Normalized
import Mathlib.Data.List.Forall2

/-!
# Reports of findings

A report has one item for each finding, in its place and made of that finding alone. What such an item has to show
is said field by field (`Trivy.Vulnerability.Shows`), apart from the functions that make it. To make a report is to
write the remarks and to ask the clock once (`Trivy.run_transform`), and it fails only if the clock does.
-/
namespace ScanAdapter

/-! ## Entries that are there -/

namespace Entries

variable {α : Type} {es : Entries (Option α)}

theorem names_present_sublist (es : Entries (Option α)) :
    ((es.filterMap fun e => e.2.map fun v => (e.1, v)).map (·.1)).Sublist (es.map (·.1)) := by
  induction es with
  | nil => exact .slnil
  | cons e es ih =>
    obtain ⟨n, v⟩ := e
    cases v with
    | none => exact ih.cons n
    | some v => exact ih.cons_cons n

/-- Of entries with distinct names, those that are there keep their values, and the others have none. -/
theorem get?_present (name : String) (h : (es.map (·.1)).Nodup) :
    get? name (es.filterMap fun e => e.2.map fun v => (e.1, v)) = (get? name es).join := by
  induction es with
  | nil => rfl
  | cons e es ih =>
    obtain ⟨n, v⟩ := e
    rw [List.map_cons, List.nodup_cons] at h
    by_cases hn : name = n
    · subst hn
      cases v with
      | none =>
        have habsent := fun hm => h.1 ((names_present_sublist es).subset hm)
        simpa [get?] using get?_eq_none_iff.2 habsent
      | some v => simp [get?]
    · have hb : (name == n) = false := by simpa using hn
      have hrest := ih h.2
      simp only [get?] at hrest
      cases v with
      | none => simpa [get?, List.lookup_cons, hb] using hrest
      | some v => simpa [get?, List.lookup_cons, hb] using hrest

end Entries

namespace Trivy

/-! ## What an item shows -/

/-- The word is one of Trivy's for severities. -/
def IsKnown (word : String) : Prop := word ∈ severities.map (·.1)

instance (word : String) : Decidable (IsKnown word) := inferInstanceAs (Decidable (word ∈ severities.map (·.1)))

/-- The attributes are those of a source's scores that are there, in this order. -/
structure CvssInfo.Shows (c : CvssInfo) (attributes : Members) : Prop where
  ordered : (attributes.map (·.1)).Sublist ["V2Vector", "V3Vector", "V2Score", "V3Score"]
  v2Vector : attributes.get? "V2Vector" = c.v2Vector.map .string
  v3Vector : attributes.get? "V3Vector" = c.v3Vector.map .string
  v2Score : attributes.get? "V2Score" = c.v2Score.map .float
  v3Score : attributes.get? "V3Score" = c.v3Score.map .float

/-- The item says of a finding what there is to say. -/
structure Vulnerability.Shows (v : Vulnerability) (item : VulnerabilityItem) : Prop where
  id : item.id = v.vulnerabilityId
  package : item.package = v.pkgName
  installedVersion : item.installedVersion = v.installedVersion
  fixVersion : item.fixVersion = v.fixedVersion
  description : item.description = v.description
  cweIds : item.cweIds = v.cweIds
  known : ∀ severity, (v.severity, severity) ∈ severities → item.severity = severity
  unknown : ¬ IsKnown v.severity → item.severity = .unknown
  primaryLink : v.primaryUrl ≠ "" → item.links = [v.primaryUrl]
  references : v.primaryUrl = "" → ∀ references, v.references = some references → item.links = references
  noLinks : v.primaryUrl = "" → v.references = none → item.links = []
  noLayer : item.layer = none ↔ v.layer = none
  layer : ∀ l ∈ v.layer, ∀ shown ∈ item.layer, shown.digest = l.digest ∧ shown.diffId = l.diffId
  noScores : v.cvss = [] → item.vendorAttributes = []
  /-- Every source in its place, with its scores. -/
  scores : v.cvss ≠ [] → ∃ sources, item.vendorAttributes = [("CVSS", .object sources)] ∧
    List.Forall₂ (fun c source => source.1 = c.1 ∧ ∃ attributes, source.2 = .object attributes ∧ c.2.Shows attributes)
      v.cvss sources

theorem CvssInfo.shows_attributes (c : CvssInfo) : c.Shows c.attributes where
  ordered := Entries.names_present_sublist _
  v2Vector := (Entries.get?_present "V2Vector" (by simp)).trans (by cases c.v2Vector <;> rfl)
  v3Vector := (Entries.get?_present "V3Vector" (by simp)).trans (by cases c.v3Vector <;> rfl)
  v2Score := (Entries.get?_present "V2Score" (by simp)).trans (by cases c.v2Score <;> rfl)
  v3Score := (Entries.get?_present "V3Score" (by simp)).trans (by cases c.v3Score <;> rfl)

theorem lookup_severities_eq_none_iff {word : String} : severities.lookup word = none ↔ ¬ IsKnown word :=
  Entries.get?_eq_none_iff

theorem severityWarnings_of_unknown {word : String} (h : ¬ IsKnown word) :
    severityWarnings word = [unknownSeverity word] := by
  rw [severityWarnings, lookup_severities_eq_none_iff.2 h]

theorem severityWarnings_of_known {word : String} (h : IsKnown word) : severityWarnings word = [] := by
  obtain ⟨severity, hlookup⟩ := Option.ne_none_iff_exists'.1 fun hnone => lookup_severities_eq_none_iff.1 hnone h
  rw [severityWarnings, hlookup]

theorem severityOf_of_unknown {word : String} (h : ¬ IsKnown word) : severityOf word = .unknown := by
  rw [severityOf, lookup_severities_eq_none_iff.2 h]
  rfl

theorem severityOf_of_mem {word : String} {severity : Severity} (h : (word, severity) ∈ severities) :
    severityOf word = severity := by
  have hlookup : severities.lookup word = some severity := (Entries.get?_eq_some_iff (by decide)).2 h
  rw [severityOf, hlookup]
  rfl

theorem shows_vendorAttributes {cvss : List (String × CvssInfo)} (h : cvss ≠ []) :
    ∃ sources, vendorAttributes cvss = [("CVSS", .object sources)] ∧
      List.Forall₂ (fun c source => source.1 = c.1 ∧ ∃ attributes, source.2 = .object attributes ∧ c.2.Shows attributes)
        cvss sources := by
  refine ⟨cvss.map fun c => (c.1, .object c.2.attributes), ?_, ?_⟩
  · rw [vendorAttributes, if_neg (by simpa using h)]
  · refine List.forall₂_map_right_iff.2 (List.forall₂_same.2 fun c _ => ?_)
    exact ⟨rfl, c.2.attributes, rfl, c.2.shows_attributes⟩

/-- **The item of a finding shows it.** -/
theorem Vulnerability.shows_normalized (v : Vulnerability) : v.Shows v.normalized where
  id := rfl
  package := rfl
  installedVersion := rfl
  fixVersion := rfl
  description := rfl
  cweIds := rfl
  known _ h := severityOf_of_mem h
  unknown h := severityOf_of_unknown h
  primaryLink h := if_pos h
  references h references hreferences := by
    change links v.primaryUrl v.references = references
    rw [links, if_neg (not_not.2 h), hreferences]
    rfl
  noLinks h hreferences := by
    change links v.primaryUrl v.references = []
    rw [links, if_neg (not_not.2 h), hreferences]
    rfl
  noLayer := Option.map_eq_none_iff
  layer l hl shown hshown := by
    obtain ⟨l', hl', rfl⟩ := Option.map_eq_some_iff.1 hshown
    obtain rfl : l = l' := Option.some.inj (hl.symm.trans hl')
    exact ⟨rfl, rfl⟩
  noScores h := by
    change vendorAttributes v.cvss = []
    rw [h]
    rfl
  scores := shows_vendorAttributes

/-! ## Making a report -/

/-- There is one remark for each word that is not known, in the order of the findings. -/
theorem warnings_eq (vs : List Vulnerability) :
    warnings vs = (vs.filter fun v => ¬ IsKnown v.severity).map fun v => unknownSeverity v.severity := by
  induction vs with
  | nil => rfl
  | cons v vs ih =>
    have hcons : warnings (v :: vs) = severityWarnings v.severity ++ warnings vs := rfl
    rw [hcons, ih]
    by_cases h : IsKnown v.severity
    · rw [List.filter_cons_of_neg (by simpa using h), severityWarnings_of_known h, List.nil_append]
    · rw [List.filter_cons_of_pos (by simpa using h), severityWarnings_of_unknown h]
      rfl

section

variable {σ α : Type} {handle : (q : Request) → σ → Outcome q.Reply × σ} {write : LogLine → σ → σ} {w w' : σ}
  {scanner : Scanner} {artifact : Artifact} {vs : List Vulnerability}

theorem run_logAll (lines : List LogLine) (next : Unit → Program α) :
    (Program.logAll lines >>= next).run handle write w =
      (next ()).run handle write (lines.foldl (fun w line => write line w) w) := by
  induction lines generalizing w with
  | nil => rfl
  | cons line lines ih => exact ih

theorem run_currentTime : Program.currentTime.run handle write w = handle .currentTime w := rfl

/-- The remarks are written, and then the clock is asked. -/
theorem run_transform {now : Moment}
    (hclock : handle .currentTime ((warnings vs).foldl (fun w line => write line w) w) = (.value now, w')) :
    (transform scanner artifact vs).run handle write w = (.value (report now scanner artifact vs), w') :=
  (run_logAll _ _).trans (Program.run_bind_value _ (run_currentTime.trans hclock))

/-- Whatever report is made is that of some time. -/
theorem exists_report_of_run_transform {made : ScanReport}
    (h : (transform scanner artifact vs).run handle write w = (.value made, w')) :
    ∃ now, made = report now scanner artifact vs := by
  rw [transform, run_logAll] at h
  change (Program.currentTime.andThen _).run handle write _ = _ at h
  rw [Program.run_andThen, run_currentTime] at h
  rcases hclock : handle .currentTime ((warnings vs).foldl (fun w line => write line w) w) with ⟨o, w₁⟩
  rw [hclock] at h
  cases o with
  | value now =>
    cases h
    exact ⟨now, rfl⟩
  | failed f | silent => cases h

end

/-- **To make a report writes one remark for each severity that is not known, in the order of the findings, asks the
clock, and brings a report with an item for each finding in its place and the highest of their severities.** -/
theorem transform_shows (scanner : Scanner) (artifact : Artifact) (vs : List Vulnerability) {σ : Type}
    (handle : (q : Request) → σ → Outcome q.Reply × σ) (write : LogLine → σ → σ) (w w' : σ) (now : Moment)
    (hclock : handle .currentTime
      (((vs.filter fun v => ¬ IsKnown v.severity).map fun v => unknownSeverity v.severity).foldl
        (fun w line => write line w) w) = (.value now, w')) :
    ∃ report, (transform scanner artifact vs).run handle write w = (.value report, w') ∧
      report.generatedAt = now ∧ report.scanner = scanner ∧ report.artifact = artifact ∧
      report.vulnerabilities = vs.map Vulnerability.normalized ∧ (∀ v : Vulnerability, v.Shows v.normalized) ∧
      report.severity.IsHighest (report.vulnerabilities.map (·.severity)) := by
  rw [← warnings_eq] at hclock
  refine ⟨report now scanner artifact vs, run_transform hclock, rfl, rfl, rfl, rfl, ?_, ?_⟩
  · exact Vulnerability.shows_normalized
  · exact Severity.isHighest_highest _

/-- A finding of a severity, and nothing more. -/
def graded (word : String) : Vulnerability := ⟨"CVE-2024-1", "", "", "", "", "", word, "", none, none, [], []⟩

def quarterPastNine : Moment := ⟨2024, 5, 2, 9, 15, 0, 0, none, by decide⟩

def sampleScanner : Scanner := ⟨"Trivy", "Aqua Security", "0.50"⟩

def sampleArtifact : Artifact := ⟨"library/alpine", "sha256:1", none, none⟩

/-- The report of findings that say no more than their severities. -/
def gradedReport (words : List String) : ScanReport :=
  report quarterPastNine sampleScanner sampleArtifact (words.map graded)

/-- A clock that stands still. -/
def still : (q : Request) → List LogLine → Outcome q.Reply × List LogLine
  | .currentTime, lines => (.value quarterPastNine, lines)
  | _, lines => (.silent, lines)

/-- A word that Trivy does not use is remarked upon, and does not count beside one that it does. -/
theorem transform_shows_graded :
    ∃ report, (transform sampleScanner sampleArtifact [graded "important", graded "LOW"]).run still
        (fun line lines => lines ++ [line]) [] = (.value report, [unknownSeverity "important"]) ∧
      report.severity = .low := by
  obtain ⟨report, hrun, -, -, -, hitems, -, hhighest⟩ := transform_shows sampleScanner sampleArtifact
    [graded "important", graded "LOW"] still (fun line lines => lines ++ [line]) [] [unknownSeverity "important"]
    quarterPastNine rfl
  refine ⟨report, hrun, ?_⟩
  have hseverities : report.vulnerabilities.map (·.severity) = [.unknown, .low] := by
    rw [hitems]
    decide
  rw [hseverities] at hhighest
  have hlow : Severity.low ≤ report.severity := hhighest.bound .low (by simp)
  rcases hhighest.attained with hmem | ⟨hnil, -⟩
  · rcases List.mem_pair.1 hmem with h | h
    · rw [h] at hlow
      exact absurd hlow (by decide)
    · exact h
  · cases hnil

end Trivy

end ScanAdapter
