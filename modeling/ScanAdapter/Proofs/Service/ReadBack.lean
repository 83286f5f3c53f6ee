import ScanAdapter.Proofs.Service.Run

/-!
# What readers get of a run

A run that returns has left its report in the record, and readers get it as it comes out of the record: with null for
the scores that are infinite or no number. Nothing else of a report changes on the way through its text, so readers get
the very report that the run returned exactly where all scores of the scan are finite.
-/
namespace ScanAdapter

/-! ## Reports that come back as they are -/

namespace Trivy

/-- All scores are numbers that JSON can write. -/
def CvssInfo.IsFinite (c : CvssInfo) : Prop :=
  (∀ x ∈ c.v2Score, x.isFinite = true) ∧ ∀ x ∈ c.v3Score, x.isFinite = true

def Vulnerability.IsFinite (v : Vulnerability) : Prop := ∀ c ∈ v.cvss, c.2.IsFinite

end Trivy

/-- Members are settled if JSON has a text for all of them, and only then. -/
theorem Json.settledMembers_eq_self_iff {ms : Members} :
    Json.settledMembers ms = ms ↔ ∀ m ∈ ms, m.2.every Json.hasText = true := by
  rw [← Json.everyMember_iff]
  refine ⟨fun h => ?_, Json.settledMembers_of_hasText ms⟩
  rw [← h]
  exact Json.hasText_settledMembers ms

namespace Trivy

theorem CvssInfo.hasText_attributes (c : CvssInfo) :
    (∀ m ∈ c.attributes, m.2.every Json.hasText = true) ↔ c.IsFinite := by
  obtain ⟨v2Vector, v3Vector, v2Score, v3Score⟩ := c
  cases v2Vector <;> cases v3Vector <;> cases v2Score <;> cases v3Score <;>
    simp [attributes, IsFinite, Json.every, Json.hasText, Json.float]

theorem Vulnerability.settled_normalized_iff (v : Vulnerability) :
    v.normalized.settled = v.normalized ↔ v.IsFinite := by
  have hattributes : v.normalized.settled = v.normalized ↔
      Json.settledMembers (vendorAttributes v.cvss) = vendorAttributes v.cvss := by
    simp [VulnerabilityItem.settled, normalized]
  rw [hattributes, Json.settledMembers_eq_self_iff, vendorAttributes, IsFinite]
  split
  · rename_i hempty
    rw [List.isEmpty_iff.1 hempty]
    simp
  · simp only [List.mem_singleton, forall_eq, Json.every, Json.hasText, Bool.true_and, Json.everyMember_iff,
      List.forall_mem_map]
    exact forall₂_congr fun c _ => c.2.hasText_attributes

/-- The report of a scan comes back as it is if all scores are finite, and only then. -/
theorem settled_report_iff {now : Moment} {scanner : Scanner} {artifact : Artifact} {vs : List Vulnerability} :
    (report now scanner artifact vs).settled = report now scanner artifact vs ↔ ∀ v ∈ vs, v.IsFinite := by
  have hitems : (report now scanner artifact vs).settled = report now scanner artifact vs ↔
      (vs.map Vulnerability.normalized).map VulnerabilityItem.settled = vs.map Vulnerability.normalized := by
    simp [ScanReport.settled, report]
  rw [hitems, List.map_map, List.map_inj_left]
  exact forall₂_congr fun v _ => v.settled_normalized_iff

end Trivy

/-! ## What a run that returns has recorded -/

namespace Trial

variable {s : JobStore} {service : Service} {id : String} {artifact : Artifact} {c : Circumstances} {w w' : Trial}
variable {job written record : ScanJob} {u : Update} {report : ScanReport} {x : Failure}
variable {ran : Outcome ScanReport × Trial}

/-- A run that returns has moved its job to pending. -/
theorem write_value_of_run (hlife : 1 ≤ service.store.ttl.wholeSeconds)
    (hclock : w.Tells c service.store.ttl.wholeSeconds)
    (h : (w.run c (service.store.keyFor id) (service.run id artifact)).1 = .value report) :
    ∃ written w', w.write service.store id c (.moveTo .pending none) = (.value written, w') := by
  obtain ⟨k, hends, -⟩ := @ends_write service.store id c w (.moveTo .pending none) hlife hclock
  cases hwrite : w.write service.store id c (.moveTo .pending none) with
  | mk o w' =>
    cases o with
    | value written => exact ⟨written, w', rfl⟩
    | silent =>
      rw [hwrite] at hends
      cases hends
    | failed x =>
      have hrun : w.run c (service.store.keyFor id) (service.run id artifact) = (.failed x, w') :=
        Program.run_bind_failed _ hwrite
      rw [hrun] at h
      cases h

theorem Fails.ne_value (h : Fails s id c x record w ran) : ran.1 ≠ .value report := by
  unfold Fails at h
  split at h
  · subst h
    nofun
  · split at h
    · obtain ⟨rfl, -⟩ := h
      nofun
    · subst h
      nofun
    · exact h.elim

/-- A run that returns has returned the report of its scan, and has left it in the record. -/
theorem Completes.of_value (h : Completes service id artifact c job w ran) (hran : ran.1 = .value report) :
    ∃ vs, c.scan = .ok vs ∧ report = Trivy.report c.clock service.scanner artifact vs ∧
      ran.2.server.Records (service.store.keyFor id) { job with status := .finished, report := some report }.settled := by
  unfold Completes at h
  split at h
  · obtain ⟨rfl, -⟩ := h
    cases hran
  · exact h.elim
  · obtain ⟨-, -, hconcludes⟩ := h
    unfold Concludes at hconcludes
    split at hconcludes
    · exact absurd hran hconcludes.ne_value
    · rename_i vs hscan
      unfold Reports at hconcludes
      split at hconcludes
      · exact absurd hran (Fails.ne_value hconcludes)
      · exact hconcludes.elim
      · split at hconcludes
        · exact absurd hran (Fails.ne_value hconcludes)
        · exact hconcludes.elim
        · obtain ⟨rfl, hrecord⟩ := hconcludes
          cases hran
          exact ⟨vs, hscan, rfl, hrecord⟩

/-! ## Readers -/

/-- A reader gets the report of the record, unless a fault keeps it from that. -/
theorem run_getReport (htime : service.store.late? none = none) (hfault : c.faults w.asked = none)
    (h : w.server.Records (service.store.keyFor id) job) :
    (w.run c (service.store.keyFor id) (service.getReport id)).1 = .value job.report := by
  obtain ⟨text, hread, hdecode⟩ := h
  have hthen : (w.pass c (service.store.keyFor id)).server.read (service.store.keyFor id) = .ok (some text) :=
    (Server.read_congr (Server.find?_wait _)).trans hread
  have hanswer : w.run c (service.store.keyFor id) (.read (service.store.keyFor id)) =
      (.value (some text), w.pass c (service.store.keyFor id)) := by
    change w.command c (service.store.keyFor id) (.read (service.store.keyFor id)) = _
    rw [command, hfault]
    dsimp only
    rw [Server.answer_read hthen]
    rfl
  have hget : w.run c (service.store.keyFor id) (service.store.get id none) =
      (.value (some job), w.pass c (service.store.keyFor id)) := by
    refine (Program.run_bind_value _ (run_call_inTime htime hanswer trivial)).trans ?_
    change Program.run _ _ (some <$> Program.ofExcept (JobStore.decode .get id text)) _ = _
    rw [JobStore.decode_ok_iff.2 hdecode]
    rfl
  exact congrArg Prod.fst (Program.run_bind_value _ hget)

/-- A run that returns has returned the report of its scan, and readers get that report settled. -/
theorem exists_scan_of_run (hlife : 1 ≤ service.store.ttl.wholeSeconds)
    (hclock : w.Tells c service.store.ttl.wholeSeconds)
    (hsound : ∀ vs, c.scan = .ok vs → ∀ v ∈ vs, v.SourcesDiffer)
    (hran : w.run c (service.store.keyFor id) (service.run id artifact) = ran) (hvalue : ran.1 = .value report)
    (hfault : c.faults ran.2.asked = none) :
    ∃ vs, c.scan = .ok vs ∧ report = Trivy.report c.clock service.scanner artifact vs ∧
      (ran.2.run c (service.store.keyFor id) (service.getReport id)).1 = .value (some report.settled) := by
  subst hran
  obtain ⟨written, w', hwrite⟩ := write_value_of_run hlife hclock hvalue
  obtain ⟨job, hrecord⟩ := exists_record_of_write hlife hclock hwrite
  have hstart : On service.store id c job w.scanned w := ⟨hrecord, hclock, rfl⟩
  obtain ⟨vs, hscan, hreport, hfinished⟩ := (hstart.completes artifact hlife hsound).of_value hvalue
  exact ⟨vs, hscan, hreport, run_getReport (time_of_write hwrite).1 hfault hfinished⟩

/-- **What a run returns is what readers get, if all scores are finite.** Time may pass and commands may fail: if a run
returns a report, it is that of its scan, and a reader who meets with no fault gets it settled. This is the report that
the run returned exactly where no score is infinite or no number. -/
theorem run_read_back (service : Service) (id : String) (artifact : Artifact) (c : Circumstances) (server : Server)
    (hlife : service.store.ttl.HasSecond)
    (hclock : (start server).Tells c service.store.ttl.wholeSeconds)
    (hsound : ∀ vs, c.scan = .ok vs → ∀ v ∈ vs, v.SourcesDiffer) :
    let key := service.store.keyFor id
    let ran := (start server).run c key (service.run id artifact)
    let got := (ran.2.run c key (service.getReport id)).1
    ∀ report, ran.1 = .value report → c.faults ran.2.asked = none →
      ∃ vs, c.scan = .ok vs ∧ report = Trivy.report c.clock service.scanner artifact vs ∧
        got = .value (some report.settled) ∧ (got = .value (some report) ↔ ∀ v ∈ vs, v.IsFinite) := by
  intro key ran got report hvalue hfault
  obtain ⟨vs, hscan, hreport, hgot⟩ := exists_scan_of_run hlife.one_le hclock hsound rfl hvalue hfault
  have hsettled : got = .value (some report) ↔ report.settled = report := by
    change (ran.2.run c key (service.getReport id)).1 = _ ↔ _
    rw [hgot]
    simp
  refine ⟨vs, hscan, hreport, hgot, hsettled.trans ?_⟩
  rw [hreport]
  exact Trivy.settled_report_iff

/-! ### One score -/

/-- A finding with one score. -/
def scored (score : Binary64) : Trivy.Vulnerability where
  vulnerabilityId := "CVE-2024-1"
  pkgName := ""
  installedVersion := ""
  fixedVersion := ""
  title := ""
  description := ""
  severity := "UNKNOWN"
  primaryUrl := ""
  references := none
  layer := none
  cvss := [("nvd", ⟨none, some "AV:N", none, some score⟩)]
  cweIds := []

/-- Nothing fails, and the scan brings one finding. -/
def scanning (score : Binary64) : Circumstances := { failingAt none with scan := .ok [scored score] }

def scoredReport (score : Binary64) : ScanReport :=
  Trivy.report (scanning score).clock sampleService.scanner sampleArtifact [scored score]

def ranScanning (score : Binary64) : Outcome ScanReport × Trial :=
  (start JobStore.sampleServer).run (scanning score) (sampleService.store.keyFor "job-1")
    (sampleService.run "job-1" sampleArtifact)

/-- What a reader gets after the run. -/
def gotScanning (score : Binary64) : Outcome (Option ScanReport) × Trial :=
  (ranScanning score).2.run (scanning score) (sampleService.store.keyFor "job-1") (sampleService.getReport "job-1")

section

variable (score : Binary64)

theorem faults_scanning (n : Nat) : (scanning score).faults n = none := rfl

theorem sourcesDiffer_scanning (vs : List Trivy.Vulnerability) (hscan : (scanning score).scan = .ok vs) :
    ∀ v ∈ vs, v.SourcesDiffer := by
  cases hscan
  exact List.forall_mem_singleton.2 (List.nodup_cons.2 ⟨List.not_mem_nil, List.nodup_nil⟩)

theorem ranScanning_value : (ranScanning score).1 = .value (scoredReport score) := by
  have hstart := @on_sampleServer (scanning score) fun _ => rfl
  have hlife : 1 ≤ sampleService.store.ttl.wholeSeconds := show 1 ≤ (3600 : Int) by decide
  have hreliable : Reliable sampleService.store (scanning score) := ⟨faults_scanning score, by decide, rfl⟩
  have hcompletes := hstart.completes sampleArtifact hlife (sourcesDiffer_scanning score)
  exact ((hcompletes.of_reliable hstart hlife (sourcesDiffer_scanning score) hreliable).1 _ rfl).1

end

/-- A score of zero comes back. -/
theorem run_read_back_zero :
    (gotScanning (.finite (.zero false))).1 = .value (some (scoredReport (.finite (.zero false)))) := by
  have hvalue := ranScanning_value (.finite (.zero false))
  -- nothing of the run is to be computed
  unfold gotScanning ranScanning at *
  obtain ⟨vs, hscan, -, -, hback⟩ := run_read_back sampleService "job-1" sampleArtifact
    (scanning (.finite (.zero false))) JobStore.sampleServer (show 1 ≤ (3600 : Int) by decide) (tells_sampleServer fun _ => rfl)
    (sourcesDiffer_scanning _) _ hvalue (faults_scanning _ _)
  cases hscan
  refine hback.2 (List.forall_mem_singleton.2 (List.forall_mem_singleton.2 ⟨nofun, ?_⟩))
  rintro _ ⟨⟩
  rfl

/-- A score may be infinite, and does not come back. -/
theorem run_read_back_infinite :
    let finding : Json := .object [("VulnerabilityID", .string "CVE-2024-1"),
      ("CVSS", .object [("nvd", .object [("V3Score", .string "inf"), ("V3Vector", .string "AV:N")])])]
    Trivy.Vulnerability.read .text finding = .accepted (scored (.infinite false)) ∧
      (ranScanning (.infinite false)).1 = .value (scoredReport (.infinite false)) ∧
      (gotScanning (.infinite false)).1 ≠ .value (some (scoredReport (.infinite false))) := by
  intro finding
  refine ⟨rfl, ranScanning_value _, fun hgot => ?_⟩
  obtain ⟨-, -, -, hsettled⟩ := @exists_scan_of_run sampleService "job-1" sampleArtifact _ _ _
    (ranScanning (.infinite false)) (show 1 ≤ (3600 : Int) by decide) (tells_sampleServer fun _ => rfl) (sourcesDiffer_scanning _) rfl
    (ranScanning_value _) (faults_scanning _ _)
  have hlost : (scoredReport (.infinite false)).settled = scoredReport (.infinite false) := by
    have hsame := hsettled.symm.trans hgot
    injection hsame with hsame
    injection hsame
  have hfinite := Trivy.settled_report_iff.1 hlost _ List.mem_cons_self _ List.mem_cons_self
  exact absurd (hfinite.2 _ rfl) nofun

end Trial

end ScanAdapter
