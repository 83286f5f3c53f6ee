import ScanAdapter.Proofs.Store.Keys
import ScanAdapter.Proofs.Store.Session

/-!
# Calls on a quiet server

A client that has the server for itself makes its call in one go. What the call comes to, and the server after it, are
read off from what the server has under the job's key.
-/
namespace ScanAdapter

/-- Run a program on a server that nobody else uses. -/
def Server.run {α : Type} (server : Server) (p : Program α) : Outcome α × Server :=
  p.run Server.answer (fun _ s => s) server

namespace Server

variable {α β : Type} {server server' : Server}

theorem run_bind_value {p : Program α} {a : α} (next : α → Program β) (h : server.run p = (.value a, server')) :
    server.run (p >>= next) = server'.run (next a) := Program.run_bind_value next h

theorem run_bind_failed {p : Program α} {f : Failure} (next : α → Program β)
    (h : server.run p = (.failed f, server')) : server.run (p >>= next) = (.failed f, server') :=
  Program.run_bind_failed next h

theorem run_map_value {p : Program α} {a : α} (g : α → β) (h : server.run p = (.value a, server')) :
    server.run (g <$> p) = (.value (g a), server') := run_bind_value _ h

theorem run_map_failed {p : Program α} {f : Failure} (g : α → β) (h : server.run p = (.failed f, server')) :
    server.run (g <$> p) = (.failed f, server') := run_bind_failed _ h

theorem run_note {p : Program α} (line : LogLine) : server.run (.note line p) = server.run p := rfl

end Server

namespace JobStore

variable {s : JobStore} {server server' : Server} {id : String} {timeout : Option Number} {job : ScanJob}

/-- The limit of a call that has no time to begin. -/
def late? (s : JobStore) (timeout : Option Number) : Option Number :=
  (timeout.or s.operationTimeout).filter Number.isAtMostZero

theorem hasTime_of_late? (h : s.late? timeout = none) : s.HasTime timeout := by
  intro limit hlimit
  have hnot := Option.filter_eq_none_iff.1 h limit hlimit
  simpa using hnot

/-- A call without time is not begun. -/
theorem call_late {α : Type} {op : Operation} {limit : Number} (h : s.late? timeout = some limit) (p : Program α) :
    s.call op id timeout p = .fail (deadline op id limit) := by
  obtain ⟨hlimit, hlate⟩ := Option.filter_eq_some_iff.1 h
  rw [call, hlimit]
  dsimp only
  rw [if_pos hlate]

theorem run_call_late {α : Type} {op : Operation} {limit : Number} (h : s.late? timeout = some limit)
    (p : Program α) : server.run (s.call op id timeout p) = (.failed (deadline op id limit), server) := by
  rw [call_late h]
  rfl

theorem run_call_inTime {α : Type} {op : Operation} {p : Program α} {o : Outcome α} (h : s.late? timeout = none)
    (hp : server.run p = (o, server')) (ho : o.OfStore) : server.run (s.call op id timeout p) = (o, server') :=
  s.run_call (fun _ _ => rfl) (fun _ => rfl) (hasTime_of_late? h) hp ho

/-! ## Creating -/

theorem run_create {created : Bool} (htime : s.late? timeout = none)
    (hfault : job.report.bind ScanReport.fault? = none)
    (hset : server.setIfAbsent (s.keyFor job.id) job.toJson.render s.ttl.wholeSeconds = (.ok created, server')) :
    server.run (s.create job timeout) =
      (if created then .value () else .failed (.store (taken job.id)), server') := by
  have hrun : server.run (.setIfAbsent (s.keyFor job.id) job.toJson.render s.ttl.wholeSeconds) =
      (.value created, server') := Server.answer_setIfAbsent hset
  rw [create, encode_of_fault? hfault]
  refine (Server.run_bind_value _ (run_call_inTime htime hrun trivial)).trans ?_
  cases created <;> rfl

theorem run_create_late {limit : Number} (htime : s.late? timeout = some limit)
    (hfault : job.report.bind ScanReport.fault? = none) :
    server.run (s.create job timeout) = (.failed (deadline .create job.id limit), server) := by
  rw [create, encode_of_fault? hfault]
  change server.run (s.call .create job.id timeout _ >>= _) = _
  exact Server.run_bind_failed _ (run_call_late htime _)

/-! ## Reading -/

theorem run_get_absent (htime : s.late? timeout = none) (hread : server.read (s.keyFor id) = .ok none) :
    server.run (s.get id timeout) = (.value none, server) := by
  have hrun : server.run (.read (s.keyFor id)) = (.value none, server) := Server.answer_read hread
  exact Server.run_bind_value _ (run_call_inTime htime hrun trivial)

theorem run_get_found {text : String} (htime : s.late? timeout = none)
    (hread : server.read (s.keyFor id) = .ok (some text)) (hdecode : ScanJob.decode text = .ok job) :
    server.run (s.get id timeout) = (.value (some job), server) := by
  have hrun : server.run (.read (s.keyFor id)) = (.value (some text), server) := Server.answer_read hread
  refine (Server.run_bind_value _ (run_call_inTime htime hrun trivial)).trans ?_
  change server.run (some <$> Program.ofExcept (decode .get id text)) = _
  rw [decode_ok_iff.2 hdecode]
  rfl

theorem run_get_late {limit : Number} (htime : s.late? timeout = some limit) :
    server.run (s.get id timeout) = (.failed (deadline .get id limit), server) :=
  Server.run_bind_failed _ (run_call_late htime _)

/-! ## Updating -/

variable {u : Update}

/-- The first attempt settles it where it is not crossed. -/
theorem run_perform {o : Outcome ScanJob} (htime : s.late? timeout = none) (hattempts : 1 ≤ s.maxUpdateRetries)
    (hfirst : ∀ left, server.run (s.attempts u.operation id u.apply (left + 1) 1 none) = (o, server'))
    (ho : o.OfStore) : server.run (s.perform u id timeout) = (o, server') := by
  obtain ⟨left, hleft⟩ : ∃ left, s.maxUpdateRetries.toNat = left + 1 := ⟨s.maxUpdateRetries.toNat - 1, by omega⟩
  rw [perform_eq, Server.run_note, update, hleft]
  exact run_call_inTime htime (hfirst left) ho

theorem run_perform_absent (htime : s.late? timeout = none) (hattempts : 1 ≤ s.maxUpdateRetries)
    (hread : server.read (s.keyFor id) = .ok none) :
    server.run (s.perform u id timeout) = (.failed (.store (notFound u.operation id)), server) := by
  refine run_perform htime hattempts (fun left => ?_) trivial
  exact Server.run_bind_failed _ (s.run_attempt_absent rfl (Server.answer_readWatched hread))

theorem run_perform_found {text : String} (htime : s.late? timeout = none) (hattempts : 1 ≤ s.maxUpdateRetries)
    (hread : server.read (s.keyFor id) = .ok (some text)) (hdecode : ScanJob.decode text = .ok job)
    (hfault : (u.apply job).report.bind ScanReport.fault? = none)
    (hcommit : server.commit (s.keyFor id) (server.mark (s.keyFor id)) (u.apply job).toJson.render
      s.ttl.wholeSeconds = (.ok true, server')) :
    server.run (s.perform u id timeout) = (.value (u.apply job), server') := by
  refine run_perform htime hattempts (fun left => ?_) trivial
  exact Server.run_bind_value _ (s.run_attempt_commit rfl (Server.answer_readWatched hread) hdecode hfault
    (Server.answer_commit hcommit))

theorem run_perform_late {limit : Number} (htime : s.late? timeout = some limit) :
    server.run (s.perform u id timeout) = (.failed (deadline u.operation id limit), server) := by
  rw [perform_eq]
  exact run_call_late htime _

end JobStore

end ScanAdapter
