import ScanAdapter.Proofs.Service.Run

/-!
# Failures of the scan

A run whose scan fails writes the failure into the record before it fails with it. Whatever has happened to the record
during the scan, the run comes to the failure of the scan if that write works; if it does not, the failure of the write
takes its place (`Trial.failed_scan`). A write that meets with no fault works exactly where the record is a job still.
-/
namespace ScanAdapter

/-- What comes of failing with `x` after one more action: if the action fails too, its failure takes the place of `x`. -/
def Failure.behind {α β : Type} (x : Failure) : Outcome α → Outcome β
  | .value _ => .failed x
  | .failed y => .failed y
  | .silent => .silent

namespace Trial

variable {α : Type} {s : JobStore} {service : Service} {id : String} {artifact : Artifact} {c : Circumstances}
variable {w w' : Trial} {u : Update} {x : Failure} {written : ScanJob} {key : String} {meanwhile : Server → Server}

/-! ## While the scan goes on -/

/-- As in a trial, and while the scan goes on something happens to the server. -/
def handleAmid (meanwhile : Server → Server) (c : Circumstances) (key : String) (q : Request) (w : Trial) :
    Outcome q.Reply × Trial :=
  let (o, w) := handle c key q w
  (o, if q = .scan then { w with server := meanwhile w.server } else w)

def runAmid (meanwhile : Server → Server) (c : Circumstances) (key : String) (p : Program α) (w : Trial) :
    Outcome α × Trial :=
  p.run (handleAmid meanwhile c key) (fun _ w => w) w

/-- The record was scanned, and something has happened since the scan began. -/
def scanAmid (meanwhile : Server → Server) (w : Trial) : Trial := { w.scan with server := meanwhile w.server }

theorem Tells.scanAmid {ttl : Int} (h : w.Tells c ttl) (hnow : ∀ server, (meanwhile server).now = server.now) :
    (w.scanAmid meanwhile).Tells c ttl := by
  intro number
  change Server.Tells ((meanwhile w.server).now + _) ttl
  rw [hnow]
  exact h number

theorem handleAmid_of_ne {q : Request} (hq : q ≠ .scan) (w : Trial) : handleAmid meanwhile c key q w = handle c key q w := by
  rcases hhandle : handle c key q w with ⟨o, w'⟩
  rw [handleAmid, hhandle]
  exact congrArg (Prod.mk o) (if_neg hq)

/-- An update is not concerned with what happens during scans. -/
theorem runAmid_perform : w.runAmid meanwhile c (s.keyFor id) (s.perform u id none) = w.write s id c u := by
  have hcall := Caller.follows_program ⟨s, .update u, none⟩ id
  refine (Program.Follows.of_map (p := s.perform u id none) hcall).run_congr fun w hmay => ?_
  have hq := Caller.isCommand_or_isTimer hmay
  refine ⟨handleAmid_of_ne ?_ w, mayBring_handle hq w⟩
  rintro rfl
  exact absurd hq (by decide)

theorem runAmid_scanAndRecord (hscan : c.scan = .error x) :
    w.runAmid meanwhile c key (service.scanAndRecord id artifact) = (.failed x, w.scanAmid meanwhile) := by
  refine Program.run_bind_failed _ ?_
  simp only [Program.scan, Program.run, handleAmid, handle, hscan]
  rfl

/-- A run whose scan fails comes to that, or to the failure of recording it. -/
theorem runAmid_run (artifact : Artifact)
    (hpending : w.write service.store id c (.moveTo .pending none) = (.value written, w'))
    (hscan : c.scan = .error x) (hcancel : x.isCancellation = false) :
    let recorded := (w'.scanAmid meanwhile).write service.store id c (.moveTo .failed (some x.text))
    w.runAmid meanwhile c (service.store.keyFor id) (service.run id artifact) = (x.behind recorded.1, recorded.2) := by
  intro recorded
  have hstarted : w.runAmid meanwhile c (service.store.keyFor id) (service.run id artifact) =
      w'.runAmid meanwhile c (service.store.keyFor id)
        ((service.scanAndRecord id artifact).andThen (afterScan service id)) :=
    Program.run_bind_value _ (runAmid_perform.trans hpending)
  have hscanned := @runAmid_scanAndRecord service id artifact c w' x (service.store.keyFor id) meanwhile hscan
  have hrecorded : (w'.scanAmid meanwhile).runAmid meanwhile c (service.store.keyFor id)
      (service.store.perform (.moveTo .failed (some x.text)) id none) = recorded := runAmid_perform
  rw [runAmid] at hscanned hrecorded
  rw [hstarted, runAmid, Program.run_andThen, hscanned]
  dsimp only [afterScan]
  rw [afterFailure, if_neg (by rw [hcancel]; exact Bool.false_ne_true)]
  change Program.run _ _ ((service.store.perform (.moveTo .failed (some x.text)) id none).andThen _) _ = _
  rw [Program.run_andThen, hrecorded]
  rcases recorded with ⟨_ | _ | _, w''⟩ <;> rfl

/-! ## What the run comes to -/

/-- Where no command fails, the failure can be recorded exactly where the record is a job. -/
theorem write_value_iff (h : Undisturbed s none c w) (hu : u.Storable) :
    (∃ job, (w.write s id c u).1 = .value job) ↔ ∃ job, w.server.Records (s.keyFor id) job := by
  have hverdict := @write_verdict s id c w u h hu
  have hmap : (∃ job, (w.write s id c u).1 = .value job) ↔
      ∃ a, (w.write s id c u).1.map Answer.updated = .value a := by
    cases (w.write s id c u).1 <;> simp [Outcome.map]
  rw [hmap, hverdict]
  simp only [Server.records_iff_holding]
  cases Entry.holding (w.server.find? (s.keyFor id)) <;> simp [Call.verdict, Holding.read]

/-- **A failed scan, whatever has happened meanwhile.** A run has moved its job to pending, something happens to the
server while its scan goes on, and the scan fails. The run records the failure, and comes to it exactly where this
works, or fails with the very same; otherwise it comes to the failure of the recording. If no command fails from then
on, the failure can be recorded exactly where the record is a job still, and the recording comes to what goes with what
is stored; and if the server fails a command, the run comes to that. -/
theorem failed_scan (service : Service) (id : String) (artifact : Artifact) (c : Circumstances)
    (meanwhile : Server → Server) (w w' : Trial) (written : ScanJob) (x : Failure)
    (hlife : service.store.ttl.HasSecond)
    (hpending : w.write service.store id c (.moveTo .pending none) = (.value written, w'))
    (hscan : c.scan = .error x) (hcancel : x.isCancellation = false)
    (hclock : (w'.scanAmid meanwhile).Tells c service.store.ttl.wholeSeconds) :
    let key := service.store.keyFor id
    let after := w'.scanAmid meanwhile
    let recording : Update := .moveTo .failed (some x.text)
    let recorded := after.write service.store id c recording
    let ran := w.runAmid meanwhile c key (service.run id artifact)
    ran = (x.behind recorded.1, recorded.2) ∧
    (ran.1 = .failed x ↔ (∃ job, recorded.1 = .value job) ∨ recorded.1 = .failed x) ∧
    ((∀ n, after.asked ≤ n → c.faults n = none) →
      ((∃ job, recorded.1 = .value job) ↔ ∃ job, after.server.Records key job) ∧
        recorded.1.map .updated = Call.verdict (.update recording) id (Entry.holding (after.server.find? key))) ∧
    ∀ n kind message, after.asked ≤ n → n < recorded.2.asked → kind ≠ .watch →
      c.faults n = some (.fault (.server kind message)) →
        ran.1 = .failed (.store (JobStore.unavailable .updateStatus id kind message)) := by
  intro key after recording recorded ran
  have hran : ran = (x.behind recorded.1, recorded.2) := runAmid_run artifact hpending hscan hcancel
  obtain ⟨htime, hattempts⟩ := time_of_write hpending
  refine ⟨hran, ?_, fun hquiet => ?_, fun n kind message hn hlt hkind hfault => ?_⟩
  · rw [hran]
    cases recorded.1 <;> simp [Failure.behind]
  · have hundisturbed : Undisturbed service.store none c after := ⟨hlife.one_le, hattempts, htime, hclock, hquiet⟩
    exact ⟨write_value_iff hundisturbed Update.storable_moveTo, write_verdict hundisturbed Update.storable_moveTo⟩
  · obtain ⟨k, hends, hknows⟩ := @ends_write service.store id c after recording hlife.one_le hclock
    have hunavailable := hknows.unavailable hends ⟨n, hn, hlt, hfault⟩ hkind
    rw [hran]
    exact congrArg x.behind (Outcome.eq_failed_of_map hunavailable)

/-! ### A record that goes away during a scan -/

/-- Nothing fails but the scan. -/
def failingScan : Circumstances := { failingAt none with scan := .error (.fault (.other .runtime "image not found")) }

/-- A job is run, and during its scan something is done to the record. -/
def ranAmid (interference : Interference) : Outcome ScanReport × Trial :=
  (start JobStore.sampleServer).runAmid (interference.act (sampleService.store.keyFor "job-1")) failingScan
    (sampleService.store.keyFor "job-1") (sampleService.run "job-1" sampleArtifact)

theorem exists_pending : ∃ written w',
    (start JobStore.sampleServer).write sampleService.store "job-1" failingScan (.moveTo .pending none) =
      (.value written, w') ∧
    On sampleService.store "job-1" failingScan ((Update.moveTo .pending none).apply ScanJob.sample.settled).settled [] w' :=
  (on_sampleServer fun _ => rfl).write_value (show 1 ≤ (3600 : Int) by decide) Update.storable_moveTo
    ⟨fun _ => rfl, by decide, rfl⟩

/-- The record stays, and the run comes to the failure of its scan. -/
theorem failed_scan_undisturbed : (ranAmid .nothing).1 = .failed (.fault (.other .runtime "image not found")) := by
  obtain ⟨written, w', hpending, hon⟩ := exists_pending
  obtain ⟨-, hraised, hquiet, -⟩ := failed_scan sampleService "job-1" sampleArtifact failingScan
    (Interference.nothing.act (sampleService.store.keyFor "job-1")) _ w' written _ (show 1 ≤ (3600 : Int) by decide)
    hpending rfl rfl (hon.clock.scanAmid fun _ => rfl)
  unfold ranAmid
  exact hraised.2 (.inl ((hquiet fun _ _ => rfl).1.2 ⟨_, hon.record⟩))

/-- The record is removed, and the run comes to an error of the store instead. -/
theorem failed_scan_removed :
    (ranAmid .remove).1 = .failed (.store (JobStore.notFound .updateStatus "job-1")) ∧
      (ranAmid .remove).1 ≠ .failed (.fault (.other .runtime "image not found")) := by
  obtain ⟨written, w', hpending, hon⟩ := exists_pending
  have hverdict := @write_verdict sampleService.store "job-1" failingScan
    (w'.scanAmid (Interference.remove.act (sampleService.store.keyFor "job-1")))
    (.moveTo .failed (some "image not found"))
    ⟨show 1 ≤ (3600 : Int) by decide, by decide, rfl, hon.clock.scanAmid fun _ => Interference.act_now _, fun _ _ => rfl⟩
    Update.storable_moveTo
  have hfree : (w'.scanAmid (Interference.remove.act (sampleService.store.keyFor "job-1"))).server.find?
      (sampleService.store.keyFor "job-1") = none := Interference.find?_act_remove
  rw [hfree] at hverdict
  have hran := congrArg Prod.fst (@runAmid_run sampleService "job-1" failingScan _ w' _ written
    (Interference.remove.act (sampleService.store.keyFor "job-1")) sampleArtifact hpending rfl rfl)
  have hmasked : (ranAmid .remove).1 = .failed (.store (JobStore.notFound .updateStatus "job-1")) := by
    unfold ranAmid
    exact hran.trans (congrArg (Failure.behind _) (Outcome.eq_failed_of_map hverdict))
  refine ⟨hmasked, ?_⟩
  rw [hmasked]
  nofun

end Trial

end ScanAdapter
