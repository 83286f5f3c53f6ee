import ScanAdapter.Proofs.Service.Records
import ScanAdapter.Proofs.Trivy.Report

/-!
# Statistics of reports

The counts of a report are kept by label while its items are gone through, and the highest severity is one that the
report was given when it was made. The two agree for every report of findings, also when it comes back from the
store, and the order of the findings makes no difference to them (`ScanReport.statistics_agree`).
-/
namespace ScanAdapter

/-! ## Counting -/

namespace Statistics

/-- The counts that give each severity its number. -/
def countsOf (number : Severity → Nat) : Entries Nat := Severity.all.map fun v => (v.label, number v)

theorem get?_countsOf (number : Severity → Nat) (v : Severity) : (countsOf number).get? v.label = some (number v) := by
  cases v <;> rfl

/-- One more of a severity is one more in its place. -/
theorem countOne_countsOf (number : Severity → Nat) (v : Severity) :
    countOne (countsOf number) v.label = countsOf fun w => if v = w then number w + 1 else number w := by
  rw [countOne, get?_countsOf]
  cases v <;> rfl

theorem sum_countsOf (number : Severity → Nat) :
    ((countsOf number).map (·.2)).sum =
      number .unknown + number .low + number .medium + number .high + number .critical := by
  simp [countsOf, Severity.all, Nat.add_assoc]

/-- The loop leaves each severity with what it had and the number of items of this severity. -/
theorem foldl_countOne (items : List VulnerabilityItem) (number : Severity → Nat) :
    items.foldl (fun counts i => countOne counts i.severity.label) (countsOf number) =
      countsOf fun v => number v + items.countP fun i => i.severity = v := by
  induction items generalizing number with
  | nil => rfl
  | cons i items ih =>
    rw [List.foldl_cons, countOne_countsOf, ih]
    congr 1
    funext v
    by_cases h : i.severity = v
    · simp only [h, if_true, List.countP_cons, decide_true]
      omega
    · simp only [h, if_false, List.countP_cons, decide_false, Bool.false_eq_true, Nat.add_zero]

/-- Every item is of one severity. -/
theorem sum_countP (items : List VulnerabilityItem) :
    ((countsOf fun v => items.countP fun i => i.severity = v).map (·.2)).sum = items.length := by
  rw [sum_countsOf]
  induction items with
  | nil => rfl
  | cons i items ih =>
    simp only [List.countP_cons, List.length_cons]
    cases i.severity <;> simp <;> omega

/-- The statistics count the items of a report, under five labels. -/
structure Counts (s : Statistics) (r : ScanReport) : Prop where
  labels : s.counts.map (·.1) = ["Unknown", "Low", "Medium", "High", "Critical"]
  each : ∀ v : Severity, s.counts.get? v.label = some (r.vulnerabilities.countP fun i => i.severity = v)
  total : s.total = r.vulnerabilities.length
  sum : (s.counts.map (·.2)).sum = s.total

/-- The severity has a count above zero. -/
def IsCounted (s : Statistics) (v : Severity) : Prop := ∃ n, s.counts.get? v.label = some n ∧ 0 < n

/-- The highest severity is the highest that is counted, and unknown where there is nothing to count. -/
structure ShowsHighest (s : Statistics) : Prop where
  bound : ∀ v, s.IsCounted v → v ≤ s.highest
  attained : s.IsCounted s.highest ∨ s.total = 0 ∧ s.highest = .unknown

end Statistics

/-! ## Reports -/

namespace ScanReport

theorem counts_statistics (r : ScanReport) :
    r.statistics.counts = Statistics.countsOf fun v => r.vulnerabilities.countP fun i => i.severity = v := by
  have hloop := Statistics.foldl_countOne r.vulnerabilities fun _ => 0
  simp only [Nat.zero_add] at hloop
  exact hloop

theorem statistics_counts (r : ScanReport) : r.statistics.Counts r where
  labels := by
    rw [counts_statistics]
    rfl
  each v := by rw [counts_statistics, Statistics.get?_countsOf]
  total := rfl
  sum := by
    rw [counts_statistics]
    exact Statistics.sum_countP r.vulnerabilities

theorem isCounted_statistics_iff {r : ScanReport} {v : Severity} :
    r.statistics.IsCounted v ↔ v ∈ r.vulnerabilities.map (·.severity) := by
  unfold Statistics.IsCounted
  rw [(statistics_counts r).each]
  simp [List.countP_pos_iff]

/-- A report that states the highest severity of its items has statistics that show it. -/
theorem showsHighest_of_isHighest {r : ScanReport} (h : r.severity.IsHighest (r.vulnerabilities.map (·.severity))) :
    r.statistics.ShowsHighest where
  bound v hv := h.bound v (isCounted_statistics_iff.1 hv)
  attained := by
    rcases h.attained with hmem | ⟨hnil, hunknown⟩
    · exact .inl (isCounted_statistics_iff.2 hmem)
    · refine .inr ⟨?_, hunknown⟩
      change r.vulnerabilities.length = 0
      rw [List.map_eq_nil_iff.1 hnil, List.length_nil]

/-- The statistics of a report are those of its severity and the severities of its items. -/
theorem statistics_congr {r s : ScanReport} (hseverity : r.severity = s.severity)
    (hitems : (r.vulnerabilities.map (·.severity)).Perm (s.vulnerabilities.map (·.severity))) :
    r.statistics = s.statistics := by
  have hcount (t : ScanReport) (v : Severity) : (t.vulnerabilities.countP fun i => i.severity = v) =
      (t.vulnerabilities.map (·.severity)).countP fun w => w = v := by
    rw [List.countP_map]
    rfl
  have hcounts : r.statistics.counts = s.statistics.counts := by
    rw [counts_statistics, counts_statistics]
    congr 1
    funext v
    rw [hcount r, hcount s, hitems.countP_eq]
  have htotal := hitems.length_eq
  rw [List.length_map, List.length_map] at htotal
  change r.statistics.total = s.statistics.total at htotal
  rw [show r.statistics = ⟨r.statistics.counts, r.statistics.total, r.severity⟩ from rfl, hcounts, htotal, hseverity]
  rfl

/-- What the store makes of a report has the same statistics. -/
theorem statistics_settled (r : ScanReport) : r.settled.statistics = r.statistics := by
  refine statistics_congr rfl (.of_eq ?_)
  change (r.vulnerabilities.map VulnerabilityItem.settled).map _ = _
  rw [List.map_map]
  rfl

end ScanReport

/-- A report of findings comes back from the store with the statistics that it had. -/
theorem ScanJob.Storable.statistics_of_decode {job : ScanJob} {r : ScanReport} (h : job.Storable)
    (hreport : job.report = some r) :
    ∃ text back r', job.encode = .ok text ∧ ScanJob.decode text = .ok back ∧ back.report = some r' ∧
      r'.statistics = r.statistics := by
  have hencode := ScanJob.encode_of_fault? h.fault?_eq_none
  refine ⟨_, job.settled, r.settled, hencode, h.decode_of_encode hencode, ?_, r.statistics_settled⟩
  change job.report.map ScanReport.settled = _
  rw [hreport]
  rfl

/-- **The statistics of every report count its items by severity. Those of a report of findings show the highest
severity that is counted, also after the report was stored and read back, and do not depend on the order of the
findings.** -/
theorem ScanReport.statistics_agree :
    (∀ r : ScanReport, r.statistics.Counts r) ∧
    ∀ (scanner : Scanner) (artifact : Artifact) (vs : List Trivy.Vulnerability) {σ : Type}
      (handle : (q : Request) → σ → Outcome q.Reply × σ) (write : LogLine → σ → σ) (w w' : σ) (r : ScanReport),
      (Trivy.transform scanner artifact vs).run handle write w = (.value r, w') →
      r.statistics.ShowsHighest ∧
      ((∀ v ∈ vs, v.SourcesDiffer) → ∀ job : ScanJob, job.report = some r →
        ∃ text back r', job.encode = .ok text ∧ ScanJob.decode text = .ok back ∧ back.report = some r' ∧
          r'.statistics = r.statistics) ∧
      ∀ vs' : List Trivy.Vulnerability, vs.Perm vs' → ∀ (u u' : σ) (r' : ScanReport),
        (Trivy.transform scanner artifact vs').run handle write u = (.value r', u') →
        r'.statistics = r.statistics := by
  refine ⟨statistics_counts, ?_⟩
  intro scanner artifact vs σ handle write w w' r hrun
  obtain ⟨now, rfl⟩ := Trivy.exists_report_of_run_transform hrun
  refine ⟨showsHighest_of_isHighest (Severity.isHighest_highest _), ?_, ?_⟩
  · intro hvs job hreport
    have hstorable : job.Storable := by
      intro report hmem
      obtain rfl : _ = report := Option.some.inj (hreport.symm.trans hmem)
      exact Trivy.storable_report hvs
    exact hstorable.statistics_of_decode hreport
  · intro vs' hperm u u' r' hrun'
    obtain ⟨now', rfl⟩ := Trivy.exists_report_of_run_transform hrun'
    have hitems := (hperm.symm.map Trivy.Vulnerability.normalized).map (·.severity)
    exact statistics_congr (Severity.highest_perm hitems) hitems

/-- Two findings of which one counts as unknown, in both orders, and the report of one order kept in a job. -/
theorem ScanReport.statistics_agree_graded :
    (Trivy.gradedReport ["important", "LOW"]).statistics.ShowsHighest ∧
      (∃ text back r, (ScanJob.mk "job-1" .finished none (some (Trivy.gradedReport ["important", "LOW"]))).encode = .ok text ∧
        ScanJob.decode text = .ok back ∧ back.report = some r ∧
        r.statistics = (Trivy.gradedReport ["important", "LOW"]).statistics) ∧
      (Trivy.gradedReport ["LOW", "important"]).statistics = (Trivy.gradedReport ["important", "LOW"]).statistics := by
  have hsources : ∀ v ∈ [Trivy.graded "important", Trivy.graded "LOW"], v.SourcesDiffer := by
    intro v hv
    rcases List.mem_pair.1 hv with rfl | rfl <;> exact List.nodup_nil
  obtain ⟨hhighest, hback, hperm⟩ := statistics_agree.2 Trivy.sampleScanner Trivy.sampleArtifact
    [Trivy.graded "important", Trivy.graded "LOW"] Trivy.still (fun line lines => lines ++ [line]) []
    [Trivy.unknownSeverity "important"] (Trivy.gradedReport ["important", "LOW"]) rfl
  exact ⟨hhighest, hback hsources ⟨"job-1", .finished, none, _⟩ rfl,
    hperm [Trivy.graded "LOW", Trivy.graded "important"] (.swap _ _ _) [] [Trivy.unknownSeverity "important"] _ rfl⟩

end ScanAdapter
