import ScanAdapter.Proofs.Service.Records
import ScanAdapter.Proofs.Store.Errors
import ScanAdapter.Proofs.Store.Races

/-!
# The outcome of a run

A run writes the record of its job up to four times, and each write may fail. `Trial.Completes` says for every scan
and every point of failure what the run comes to and which record it leaves, write by write. A job that is read back
is settled, so all records are.
-/
namespace ScanAdapter

theorem Server.records_iff_holding {server : Server} {key : String} {job : ScanJob} :
    server.Records key job ↔ Entry.holding (server.find? key) = .kept job := by
  cases hread : server.read key with
  | error fault =>
    rcases Server.holding_of_read_error hread with ⟨f, hholding, -⟩ | ⟨hholding, -⟩ <;>
      simp [hholding, Server.Records, hread]
  | ok held =>
    cases held with
    | none => simp [Server.find?_of_read_none hread, Entry.holding, Server.Records, hread]
    | some text =>
      cases hdecode : ScanJob.decode text with
      | ok job' => simp [(Server.holding_of_read_some hread).1 job' hdecode, Server.Records, hread, hdecode]
      | error r => simp [(Server.holding_of_read_some hread).2 r hdecode, Server.Records, hread, hdecode]

namespace Trial

variable {α : Type} {s : JobStore} {id : String} {c : Circumstances} {w w' : Trial} {job : ScanJob} {u : Update}

/-- An update of the record. -/
def write (s : JobStore) (id : String) (c : Circumstances) (u : Update) (w : Trial) : Outcome ScanJob × Trial :=
  w.run c (s.keyFor id) (s.perform u id none)

/-- The record is scanned. -/
def scan (w : Trial) : Trial := { w with scanned := w.scanned ++ [w.server] }

/-- What a run that fails with `x` comes to. Unless it was cancelled the failure is recorded, if that works. -/
def Fails (s : JobStore) (id : String) (c : Circumstances) (x : Failure) (record : ScanJob) (w : Trial)
    (ran : Outcome ScanReport × Trial) : Prop :=
  if x.isCancellation then ran = (.failed x, w)
  else
    match w.write s id c (.moveTo .failed (some x.text)) with
    | (.value _, w') => ran = (.failed x, w') ∧ w'.server.Records (s.keyFor id) record.settled
    | (.failed y, w') => ran = (.failed y, w')
    | (.silent, _) => False

/-- What a run whose scan has come back comes to. -/
def Reports (s : JobStore) (id : String) (c : Circumstances) (job : ScanJob) (report : ScanReport) (w : Trial)
    (ran : Outcome ScanReport × Trial) : Prop :=
  match w.write s id c (.attach report) with
  | (.failed x, w') => Fails s id c x { job with status := .failed, error := some x.text } w' ran
  | (.silent, _) => False
  | (.value _, w') =>
    match w'.write s id c (.moveTo .finished none) with
    | (.failed x, w') =>
      Fails s id c x { job with status := .failed, error := some x.text, report := some report } w' ran
    | (.silent, _) => False
    | (.value _, w') =>
      ran = (.value report, w') ∧
        w'.server.Records (s.keyFor id) { job with status := .finished, report := some report }.settled

/-- What a run whose scan has ended comes to. -/
def Concludes (s : Service) (id : String) (artifact : Artifact) (c : Circumstances) (job : ScanJob) (w : Trial)
    (ran : Outcome ScanReport × Trial) : Prop :=
  match c.scan with
  | .error x => Fails s.store id c x { job with status := .failed, error := some x.text } w ran
  | .ok vulnerabilities =>
    Reports s.store id c job (Trivy.report c.clock s.scanner artifact vulnerabilities) w ran

/-- What a run on the record of `job` comes to. -/
@[irreducible] def Completes (s : Service) (id : String) (artifact : Artifact) (c : Circumstances) (job : ScanJob)
    (w : Trial) (ran : Outcome ScanReport × Trial) : Prop :=
  match w.write s.store id c (.moveTo .pending none) with
  | (.failed x, w') => ran = (.failed x, w') ∧ w'.scanned = w.scanned ∧
    w'.server.find? (s.store.keyFor id) = w.server.find? (s.store.keyFor id)
  | (.silent, _) => False
  | (.value _, w') =>
    w'.server.Records (s.store.keyFor id) { job with status := .pending }.settled ∧
      ran.2.scanned = w.scanned ++ [w'.server] ∧ Concludes s id artifact c job w'.scan ran

/-! ## One write -/

/-- Between two writes the record is that of `job`, and so many servers were scanned. -/
structure On (s : JobStore) (id : String) (c : Circumstances) (job : ScanJob) (scanned : List Server) (w : Trial) :
    Prop where
  record : w.server.Records (s.keyFor id) job
  clock : w.Tells c s.ttl.wholeSeconds
  scanned : w.scanned = scanned

/-- No command fails, and the store tries each update at least once. -/
structure Reliable (s : JobStore) (c : Circumstances) : Prop where
  quiet : ∀ n, c.faults n = none
  attempts : 1 ≤ s.maxUpdateRetries
  time : s.late? none = none

variable {scanned : List Server}

theorem On.scan (h : On s id c job scanned w) : On s id c job (scanned ++ [w.server]) w.scan :=
  ⟨h.record, h.clock, congrArg (· ++ [w.server]) h.scanned⟩

/-- A write is a call of the store. -/
theorem ends_write (hlife : 1 ≤ s.ttl.wholeSeconds) (hclock : w.Tells c s.ttl.wholeSeconds) :
    ∃ k, Caller.Ends ⟨s, .update u, none⟩ id k ((w.write s id c u).1.map .updated) ∧
      Knows ⟨s, .update u, none⟩ (s.keyFor id) c w k (w.write s id c u).2 := by
  obtain ⟨k, hends, hknows⟩ := ends_call ⟨s, .update u, none⟩ id c w hlife hclock
  have hcall : Caller.program ⟨s, .update u, none⟩ id = Answer.updated <$> s.perform u id none := rfl
  change Caller.Ends _ id k (w.run c (s.keyFor id) (Caller.program ⟨s, .update u, none⟩ id)).1 at hends
  change Knows _ (s.keyFor id) c w k (w.run c (s.keyFor id) (Caller.program ⟨s, .update u, none⟩ id)).2 at hknows
  rw [hcall, Trial.run, Program.run_map] at hends hknows
  exact ⟨k, hends, hknows⟩

/-- A write works and leaves the changed job, or fails and leaves what was there. -/
theorem On.write (h : On s id c job scanned w) (hlife : 1 ≤ s.ttl.wholeSeconds) (hu : u.Storable) :
    (∃ written w', w.write s id c u = (.value written, w') ∧ On s id c (u.apply job).settled scanned w') ∨
      ∃ x w', w.write s id c u = (.failed x, w') ∧ On s id c job scanned w' ∧
        w'.server.find? (s.keyFor id) = w.server.find? (s.keyFor id) := by
  obtain ⟨k, hends, hknows⟩ := @ends_write s id c w u hlife h.clock
  generalize w.write s id c u = ran at hends hknows ⊢
  obtain ⟨o, w'⟩ := ran
  have hscanned : w'.scanned = scanned := hknows.scanned.trans h.scanned
  cases o with
  | silent => cases hends
  | failed x =>
    have hkept : w'.server.find? (s.keyFor id) = w.server.find? (s.keyFor id) := by
      refine hknows.kept ?_
      rintro before rfl
      cases hends
    exact .inr ⟨x, w', rfl, ⟨h.record.congr hkept, hknows.clock, hscanned⟩, hkept⟩
  | value written =>
    obtain ⟨before, rfl⟩ := Caller.written_of_value (u := u) rfl hends
    obtain ⟨text, hread, hbefore, u', job', hcall, hdecode, hencode⟩ := hknows.fits
    cases hcall
    obtain rfl : job' = job := Server.Records.unique ⟨before, hbefore, hdecode⟩ h.record
    have hjob := hu.apply h.record.storable
    exact .inl ⟨written, w', rfl, ⟨text, hread, hjob.decode_of_encode hencode⟩, hknows.clock, hscanned⟩

/-- An undisturbed write comes to what goes with what was stored. -/
theorem write_verdict (h : Undisturbed s none c w) (hu : u.Storable) :
    (w.write s id c u).1.map .updated = Call.verdict (.update u) id (Entry.holding (w.server.find? (s.keyFor id))) :=
  h.verdict_of_map ⟨s, .update u, none⟩ id
    (fun report hreport => @ScanReport.fault?_eq_none report 196 (by decide) (hu report hreport)) rfl

/-- A write that came back had a job to change. -/
theorem exists_record_of_write {written : ScanJob} (hlife : 1 ≤ s.ttl.wholeSeconds)
    (hclock : w.Tells c s.ttl.wholeSeconds) (h : w.write s id c u = (.value written, w')) :
    ∃ job, w.server.Records (s.keyFor id) job := by
  obtain ⟨k, hends, hknows⟩ := @ends_write s id c w u hlife hclock
  rw [h] at hends hknows
  obtain ⟨before, rfl⟩ := Caller.written_of_value (u := u) rfl hends
  obtain ⟨text, -, hread, -, job, -, hdecode, -⟩ := hknows.fits
  exact ⟨job, before, hread, hdecode⟩

/-- In a trial only the operation decides what a call in time comes to. -/
theorem run_call_inTime {key : String} {op : Operation} {timeout : Option Number} {p : Program α} {o : Outcome α}
    (htime : s.late? timeout = none) (hp : w.run c key p = (o, w')) (ho : o.OfStore) :
    w.run c key (s.call op id timeout p) = (o, w') :=
  s.run_call (fun _ _ => rfl) (fun _ => rfl) (JobStore.hasTime_of_late? htime) hp ho

/-- A write that came back had time, and an attempt. -/
theorem time_of_write {written : ScanJob} (h : w.write s id c u = (.value written, w')) :
    s.late? none = none ∧ 1 ≤ s.maxUpdateRetries := by
  rw [write, JobStore.perform_eq, JobStore.update] at h
  cases hlate : s.late? none with
  | some limit =>
    rw [JobStore.call_late hlate] at h
    cases h
  | none =>
    refine ⟨rfl, ?_⟩
    by_contra hattempts
    have hnone : s.maxUpdateRetries.toNat = 0 := by omega
    rw [hnone, JobStore.attempts] at h
    have hgaveUp : w.run c (s.keyFor id) (.fail (.store (s.gaveUp u.operation id)) : Program ScanJob) =
        (.failed (.store (s.gaveUp u.operation id)), w) := rfl
    cases (run_call_inTime hlate hgaveUp trivial).symm.trans h

/-- A write works if nothing fails. -/
theorem On.write_value (h : On s id c job scanned w) (hlife : 1 ≤ s.ttl.wholeSeconds) (hu : u.Storable)
    (hc : Reliable s c) :
    ∃ written w', w.write s id c u = (.value written, w') ∧ On s id c (u.apply job).settled scanned w' := by
  rcases h.write hlife hu with hwritten | ⟨x, w', hwrite, -, -⟩
  · exact hwritten
  · exfalso
    have hverdict := @write_verdict s id c w u ⟨hlife, hc.attempts, hc.time, h.clock, fun n _ => hc.quiet n⟩ hu
    rw [hwrite, Server.records_iff_holding.1 h.record] at hverdict
    cases hverdict

/-! ## A run -/

section

variable {service : Service} {artifact : Artifact} {x : Failure} {record : ScanJob}

/-- How a run goes on after a failure. -/
def afterFailure (service : Service) (id : String) (x : Failure) : Program ScanReport :=
  if x.isCancellation then .fail x else service.recordFailure id x

theorem On.fails (h : On service.store id c job scanned w) (hlife : 1 ≤ service.store.ttl.wholeSeconds)
    (hrecord : ((Update.moveTo .failed (some x.text)).apply job).settled = record.settled) :
    Fails service.store id c x record w (w.run c (service.store.keyFor id) (afterFailure service id x)) ∧
      (w.run c (service.store.keyFor id) (afterFailure service id x)).2.scanned = scanned := by
  unfold Fails afterFailure
  split
  · exact ⟨rfl, h.scanned⟩
  · have hfailure : w.run c (service.store.keyFor id) (service.recordFailure id x) =
        w.run c (service.store.keyFor id)
          (service.store.perform (.moveTo .failed (some x.text)) id none >>= fun _ => .fail x) := rfl
    rw [hfailure]
    rcases h.write hlife (u := .moveTo .failed (some x.text)) Update.storable_moveTo with
      ⟨written, w', hwrite, hthen⟩ | ⟨y, w', hwrite, hthen, -⟩
    · rw [hwrite, Trial.run, Program.run_bind_value _ hwrite, ← hrecord]
      exact ⟨⟨rfl, hthen.record⟩, hthen.scanned⟩
    · rw [hwrite, Trial.run, Program.run_bind_failed _ hwrite]
      exact ⟨rfl, hthen.scanned⟩

/-- Lines of the log make no difference to what follows. -/
theorem run_logAll {key : String} (lines : List LogLine) (next : Unit → Program α) :
    w.run c key (Program.logAll lines >>= next) = w.run c key (next ()) := by
  induction lines with
  | nil => rfl
  | cons line lines ih => exact ih

/-- A run whose scan has failed. -/
theorem run_scanAndRecord_error {key : String} (hscan : c.scan = .error x) :
    w.run c key (service.scanAndRecord id artifact) = (.failed x, w.scan) := by
  refine Program.run_bind_failed _ ?_
  simp only [Program.scan, Program.run, handle, hscan]
  rfl

/-- What a run does after its scan has come back. -/
def recordReport (service : Service) (id : String) (report : ScanReport) : Program ScanReport := do
  let _ ← service.store.perform (.attach report) id none
  let _ ← service.store.perform (.moveTo .finished none) id none
  pure report

/-- A run whose scan has come back. -/
theorem run_scanAndRecord_ok {key : String} {vs : List Trivy.Vulnerability} (hscan : c.scan = .ok vs) :
    w.run c key (service.scanAndRecord id artifact) =
      w.scan.run c key (recordReport service id (Trivy.report c.clock service.scanner artifact vs)) := by
  have hbrought : w.run c key Program.scan = (.value vs, w.scan) := by
    simp only [Trial.run, Program.scan, Program.run, handle, hscan]
    rfl
  have hmade : w.scan.run c key (Trivy.transform service.scanner artifact vs) =
      (.value (Trivy.report c.clock service.scanner artifact vs), w.scan) := run_logAll _ _
  exact (Program.run_bind_value _ hbrought).trans (Program.run_bind_value _ hmade)

/-- How a run goes on after its scan. -/
def afterScan (service : Service) (id : String) : Outcome ScanReport → Program ScanReport
  | .value report =>
    .note (Service.line .info id s!"Completed scan job. stats={report.statistics.toJson.literal}") (pure report)
  | .failed x => afterFailure service id x
  | .silent => .done .silent

/-- A program goes on from the outcome of its first part. -/
theorem run_andThen {β : Type} {key : String} {p : Program α} {o : Outcome α} (next : Outcome α → Program β)
    (h : w.run c key p = (o, w')) : w.run c key (p.andThen next) = w'.run c key (next o) := by
  rw [Trial.run] at h
  rw [Trial.run, Program.run_andThen, h]
  rfl

/-- The report and the end of the job are recorded, or the failure of that. -/
theorem On.reports {report : ScanReport} {ran : Outcome ScanReport × Trial}
    (h : On service.store id c { job with status := .pending }.settled scanned w)
    (hlife : 1 ≤ service.store.ttl.wholeSeconds) (hreport : report.Storable)
    (hran : ∀ o w', w.run c (service.store.keyFor id) (recordReport service id report) = (o, w') →
      ran = w'.run c (service.store.keyFor id) (afterScan service id o)) :
    Reports service.store id c job report w ran ∧ ran.2.scanned = scanned := by
  unfold Reports
  rcases h.write hlife (Update.storable_attach hreport) with
    ⟨written, w₁, hattach, hattached⟩ | ⟨x, w₁, hattach, hkept, -⟩
  · have hthen := Program.run_bind_value (fun _ => service.store.perform (.moveTo .finished none) id none >>= fun _ =>
      pure report) hattach
    rw [hattach]
    dsimp only
    rcases hattached.write hlife (u := .moveTo .finished none) Update.storable_moveTo with
      ⟨written, w₂, hfinish, hfinished⟩ | ⟨x, w₂, hfinish, hkept, -⟩
    · rw [hran _ _ (hthen.trans (Program.run_bind_value _ hfinish)), hfinish]
      refine ⟨⟨rfl, ?_⟩, hfinished.scanned⟩
      have hrecord := hfinished.record
      rwa [Update.settled_apply_settled] at hrecord
    · rw [hran _ _ (hthen.trans (Program.run_bind_failed _ hfinish)), hfinish]
      exact hkept.fails hlife (Update.settled_apply_settled _ _)
  · rw [hran _ _ (Program.run_bind_failed _ hattach), hattach]
    exact hkept.fails hlife (Update.settled_apply_settled _ _)

/-- What a run comes to from its scan on. -/
theorem On.concludes (artifact : Artifact) (h : On service.store id c { job with status := .pending }.settled scanned w)
    (hlife : 1 ≤ service.store.ttl.wholeSeconds)
    (hsound : ∀ vs, c.scan = .ok vs → ∀ v ∈ vs, v.SourcesDiffer) :
    let ran := w.run c (service.store.keyFor id) ((service.scanAndRecord id artifact).andThen (afterScan service id))
    Concludes service id artifact c job w.scan ran ∧ ran.2.scanned = scanned ++ [w.server] := by
  intro ran
  have hscan := h.scan
  unfold Concludes
  cases hresult : c.scan with
  | error x =>
    have hran : ran = _ := run_andThen _ (run_scanAndRecord_error hresult)
    rw [hran]
    exact hscan.fails hlife (Update.settled_apply_settled _ _)
  | ok vs =>
    exact hscan.reports hlife (Trivy.storable_report (hsound vs hresult)) fun o w' hrecorded =>
      run_andThen _ ((run_scanAndRecord_ok hresult).trans hrecorded)

/-- What a run comes to on the record of a job. -/
theorem On.completes (artifact : Artifact) (h : On service.store id c job scanned w)
    (hlife : 1 ≤ service.store.ttl.wholeSeconds)
    (hsound : ∀ vs, c.scan = .ok vs → ∀ v ∈ vs, v.SourcesDiffer) :
    Completes service id artifact c job w (w.run c (service.store.keyFor id) (service.run id artifact)) := by
  unfold Completes
  rcases h.write hlife (u := .moveTo .pending none) Update.storable_moveTo with
    ⟨written, w₁, hpending, hthen⟩ | ⟨x, w₁, hpending, hkept, hfind⟩
  · have hrun : w.run c (service.store.keyFor id) (service.run id artifact) = _ := Program.run_bind_value _ hpending
    obtain ⟨hconcludes, hscanned⟩ := hthen.concludes artifact hlife hsound
    rw [hpending, hrun, h.scanned]
    exact ⟨hthen.record, hscanned, hconcludes⟩
  · have hrun : w.run c (service.store.keyFor id) (service.run id artifact) = _ := Program.run_bind_failed _ hpending
    rw [hpending, hrun]
    exact ⟨rfl, hkept.scanned.trans h.scanned.symm, hfind⟩

/-- A run in which nothing fails comes to what its scan comes to. -/
theorem Completes.of_reliable {ran : Outcome ScanReport × Trial} (h : Completes service id artifact c job w ran)
    (hstart : On service.store id c job scanned w) (hlife : 1 ≤ service.store.ttl.wholeSeconds)
    (hsound : ∀ vs, c.scan = .ok vs → ∀ v ∈ vs, v.SourcesDiffer) (hc : Reliable service.store c) :
    (∀ vs, c.scan = .ok vs →
      let report := Trivy.report c.clock service.scanner artifact vs
      ran.1 = .value report ∧ ran.2.server.Records (service.store.keyFor id)
        { job with status := .finished, report := some report }.settled) ∧
    ∀ x, c.scan = .error x → ran.1 = .failed x ∧ (x.isCancellation = false →
      ran.2.server.Records (service.store.keyFor id) { job with status := .failed, error := some x.text }.settled) := by
  obtain ⟨written, w₁, hpending, hon⟩ :=
    hstart.write_value hlife (u := .moveTo .pending none) Update.storable_moveTo hc
  have hscanned := hon.scan
  unfold Completes at h
  rw [hpending] at h
  obtain ⟨-, -, hconcludes⟩ := h
  unfold Concludes at hconcludes
  refine ⟨fun vs hresult => ?_, fun x hresult => ?_⟩
  · intro report
    rw [hresult] at hconcludes
    have hreport : report.Storable := Trivy.storable_report (hsound vs hresult)
    obtain ⟨written, w₂, hattach, hattached⟩ := hscanned.write_value hlife (Update.storable_attach hreport) hc
    obtain ⟨written, w₃, hfinish, -⟩ :=
      hattached.write_value hlife (u := .moveTo .finished none) Update.storable_moveTo hc
    change Reports _ _ _ _ report _ _ at hconcludes
    unfold Reports at hconcludes
    rw [hattach] at hconcludes
    dsimp only at hconcludes
    rw [hfinish] at hconcludes
    obtain ⟨rfl, hrecord⟩ := hconcludes
    exact ⟨rfl, hrecord⟩
  · rw [hresult] at hconcludes
    change Fails _ _ _ x _ _ _ at hconcludes
    unfold Fails at hconcludes
    cases hcancelled : x.isCancellation with
    | true =>
      rw [if_pos hcancelled] at hconcludes
      subst hconcludes
      exact ⟨rfl, nofun⟩
    | false =>
      obtain ⟨written, w₂, hfailed, -⟩ :=
        hscanned.write_value hlife (u := .moveTo .failed (some x.text)) Update.storable_moveTo hc
      rw [if_neg (by rw [hcancelled]; nofun), hfailed] at hconcludes
      obtain ⟨rfl, hrecord⟩ := hconcludes
      exact ⟨rfl, fun _ => hrecord⟩

end

/-- **The outcome of a run, for every scan and every point of failure.** A run that cannot move its job to pending fails
with that, before the scan and without a change. Otherwise the job is scanned once, as pending with the error and the
report that it had, and the run comes to the first failure or to the report, and leaves the record of that. If nothing
but the scan fails, all writes work. -/
theorem run_completes (service : Service) (id : String) (artifact : Artifact) (c : Circumstances) (server : Server)
    (job : ScanJob) (hlife : service.store.ttl.HasSecond)
    (hclock : (start server).Tells c service.store.ttl.wholeSeconds)
    (hsound : ∀ vs, c.scan = .ok vs → ∀ v ∈ vs, v.SourcesDiffer)
    (hrecord : server.Records (service.store.keyFor id) job) :
    let key := service.store.keyFor id
    let ran := (start server).run c key (service.run id artifact)
    Completes service id artifact c job (start server) ran ∧
    (Reliable service.store c →
      (∀ vs, c.scan = .ok vs →
        let report := Trivy.report c.clock service.scanner artifact vs
        ran.1 = .value report ∧
          ran.2.server.Records key { job with status := .finished, report := some report }.settled) ∧
      ∀ x, c.scan = .error x → ran.1 = .failed x ∧ (x.isCancellation = false →
        ran.2.server.Records key { job with status := .failed, error := some x.text }.settled)) := by
  intro key ran
  have hstart : On service.store id c job [] (start server) := ⟨hrecord, hclock, rfl⟩
  have hcompletes := hstart.completes artifact hlife.one_le hsound
  exact ⟨hcompletes, hcompletes.of_reliable hstart hlife.one_le hsound⟩

/-- A job that had finished is run once more, and the scan fails and does not say why. -/
theorem run_completes_speechless :
    let service : Service := ⟨JobStore.sampleStore, ⟨"Trivy", "Aqua Security", "0.50"⟩⟩
    let c : Circumstances := { failingAt none with scan := .error (.fault (.other .runtime "")) }
    let artifact : Artifact := ⟨"library/alpine", "sha256:1", none, none⟩
    ScanJob.sample.settled.error = none ∧
      ((start JobStore.sampleServer).run c (service.store.keyFor "job-1") (service.run "job-1" artifact)).1 =
        .failed (.fault (.other .runtime "")) ∧
      ((start JobStore.sampleServer).run c (service.store.keyFor "job-1")
          (service.run "job-1" artifact)).2.server.Records (service.store.keyFor "job-1")
        { ScanJob.sample.settled with status := .failed, error := some "" }.settled := by
  intro service c artifact
  have hstorable : ScanJob.sample.Storable := by
    rintro report ⟨⟩
    exact ⟨by decide, by decide⟩
  have hrecord : JobStore.sampleServer.Records (service.store.keyFor "job-1") ScanJob.sample.settled :=
    ⟨_, Server.read_put_textFor (by decide), hstorable.decode⟩
  have hclock : (start JobStore.sampleServer).Tells c 3600 := tells_of_still (fun _ => rfl) ⟨by decide, by decide⟩
  have hsound : ∀ vs, c.scan = .ok vs → ∀ v ∈ vs, v.SourcesDiffer := by
    rintro vs ⟨⟩
  have hreliable : Reliable service.store c := ⟨fun _ => rfl, by decide, rfl⟩
  have hrun := run_completes service "job-1" artifact c JobStore.sampleServer _ (show 1 ≤ (3600 : Int) by decide) hclock
    hsound hrecord
  obtain ⟨hfailed, hthen⟩ := (hrun.2 hreliable).2 _ rfl
  have htext : (Failure.fault (.other .runtime "")).text = "" := rfl
  rw [htext] at hthen
  exact ⟨rfl, hfailed, hthen rfl⟩

/-! ## A job to run -/

def sampleService : Service := ⟨JobStore.sampleStore, ⟨"Trivy", "Aqua Security", "0.50"⟩⟩

def sampleArtifact : Artifact := ⟨"library/alpine", "sha256:1", none, none⟩

theorem tells_sampleServer (hstill : ∀ n, c.pauses n = 0) : (start JobStore.sampleServer).Tells c 3600 :=
  tells_of_still hstill ⟨by decide, by decide⟩

theorem on_sampleServer (hstill : ∀ n, c.pauses n = 0) :
    On sampleService.store "job-1" c ScanJob.sample.settled [] (start JobStore.sampleServer) := by
  have hstorable : ScanJob.sample.Storable := by
    rintro report ⟨⟩
    exact ⟨by decide, by decide⟩
  exact ⟨⟨_, Server.read_put_textFor (by decide), hstorable.decode⟩, tells_sampleServer hstill, rfl⟩

end Trial

end ScanAdapter
