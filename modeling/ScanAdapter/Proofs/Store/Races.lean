import ScanAdapter.Proofs.Store.Keys
import ScanAdapter.Proofs.Store.Update

/-!
# One update against other clients

Between the reading and the commit of an attempt other clients may write the key or remove it. A script says what
they do at each attempt. An attempt that reads a job and is crossed writes nothing and leads to the next one, so
the state of the world before attempt `k` is that which the first `k` entries of the script have made
(`Race.before`); every other attempt ends the update.
-/
namespace ScanAdapter

/-- What other clients do to a key. -/
inductive Interference
  | nothing
  /-- Write a text, for ever or for so many seconds. -/
  | write (text : String) (seconds : Option Nat)
  | remove
  deriving DecidableEq, Repr

def Interference.act (key : String) : Interference → Server → Server
  | nothing, s => s
  | write text seconds, s =>
    s.put key ⟨.text (Text.encodeUtf8 text), seconds.map fun n => s.now + n⟩
  | remove, s => (s.delete key).2

/-- The server, how many commits were tried, and the lines of the log. -/
structure Race where
  server : Server
  tried : Nat
  log : List LogLine

namespace Race

/-- The other clients act when a commit is asked for, just before it. -/
def crossed (script : Nat → Interference) : Request → Race → Race
  | .commit key _ _ _, w => { w with server := (script w.tried).act key w.server, tried := w.tried + 1 }
  | _, w => w

def handle (script : Nat → Interference) (q : Request) (w : Race) : Outcome q.Reply × Race :=
  let w := crossed script q w
  let (reply, server) := w.server.answer q
  (reply, { w with server })

def write (line : LogLine) (w : Race) : Race := { w with log := w.log ++ [line] }

/-- The server before attempt `k`. -/
def before (script : Nat → Interference) (key : String) (server : Server) : Nat → Server
  | 0 => server
  | k + 1 => (script k).act key (before script key server k)

end Race

/-! ## What an interference does -/

namespace Interference

variable {key : String} {s : Server}

theorem act_now (i : Interference) : (i.act key s).now = s.now := by
  cases i with
  | nothing | write text seconds => rfl
  | remove =>
    rw [act, Server.delete]
    split <;> rfl

theorem find?_act_remove : (remove.act key s).find? key = none := by
  rw [act, Server.delete]
  split
  · assumption
  · exact Server.find?_remove_self s key

/-- After it the key holds a text or nothing. -/
theorem read_act (i : Interference) (h : ∃ held, s.read key = .ok held) :
    ∃ held, (i.act key s).read key = .ok held := by
  cases i with
  | nothing => exact h
  | write text seconds =>
    refine ⟨some text, Server.read_of_find? (e := ⟨_, seconds.map fun n => s.now + n⟩) ?_ rfl⟩
    rw [act, Server.find?_put_self, if_pos]
    cases seconds with
    | none => rfl
    | some n => simp [Entry.isAliveAt]
  | remove => exact ⟨none, Server.read_of_find?_none find?_act_remove⟩

/-- A write, and the removal of a key that is there, move its mark. -/
theorem mark_act {i : Interference} {e : Entry} (hi : i ≠ .nothing) (h : s.find? key = some e) :
    (i.act key s).mark key ≠ s.mark key := by
  cases i with
  | nothing => exact absurd rfl hi
  | write text seconds =>
    rw [act, Server.mark_put_self]
    omega
  | remove =>
    rw [act, Server.delete, h, Server.mark_remove_self]
    omega

end Interference

namespace Race

variable {script : Nat → Interference} {key : String} {server : Server}

theorem before_now (k : Nat) : (before script key server k).now = server.now := by
  induction k with
  | zero => rfl
  | succ k ih => rw [before, Interference.act_now, ih]

theorem read_before (h : ∃ held, server.read key = .ok held) (k : Nat) :
    ∃ held, (before script key server k).read key = .ok held := by
  induction k with
  | zero => exact h
  | succ k ih => exact (script k).read_act ih

end Race

/-! ## Attempts -/

namespace JobStore

variable (s : JobStore) (u : Update) (id : String) (script : Nat → Interference) (server : Server)

/-- Attempt `k` reads a job, and somebody else changes the key before it commits. -/
def IsCrossed (k : Nat) : Prop :=
  ∃ text job, (Race.before script (s.keyFor id) server k).read (s.keyFor id) = .ok (some text) ∧
    ScanJob.decode text = .ok job ∧ script k ≠ .nothing

def retryLine (op : Operation) (id : String) (number : Nat) : LogLine :=
  debug id s!"Scan job changed during {op.name}, retrying. attempt={number}"

/-- The lines of the first `k` attempts. -/
def retryLines (op : Operation) (id : String) (k : Nat) : List LogLine :=
  (List.range k).map fun j => retryLine op id (j + 1)

def doneLine (id : String) (job : ScanJob) : LogLine := debug id s!"Updated scan job. {s.whereabouts id job}"

/-- The world before attempt `k`. -/
def raceBefore (log : List LogLine) (k : Nat) : Race :=
  ⟨Race.before script (s.keyFor id) server k, k, log⟩

variable {s u id script server} {k : Nat} {log : List LogLine} {text : String} {job : ScanJob}

theorem retryLines_succ (op : Operation) (id : String) (k : Nat) :
    retryLines op id (k + 1) = retryLines op id k ++ [retryLine op id (k + 1)] := by
  rw [retryLines, List.range_succ, List.map_append]
  rfl

theorem handle_watch : Race.handle script (.watch (s.keyFor id)) (s.raceBefore id script server log k) =
    (.value ((Race.before script (s.keyFor id) server k).mark (s.keyFor id)),
      s.raceBefore id script server log k) := rfl

theorem handle_readWatched {held : Option String}
    (h : (Race.before script (s.keyFor id) server k).read (s.keyFor id) = .ok held) :
    Race.handle script (.readWatched (s.keyFor id)) (s.raceBefore id script server log k) =
      (.value held, s.raceBefore id script server log k) := by
  simp only [Race.handle, Race.crossed, raceBefore, Server.answer, h, Outcome.ofExcept]

/-- An attempt that is crossed writes nothing. -/
theorem run_attempt_crossed (hu : u.fault? = none)
    (hread : (Race.before script (s.keyFor id) server k).read (s.keyFor id) = .ok (some text))
    (hdecode : ScanJob.decode text = .ok job) (hscript : script k ≠ .nothing) :
    (s.attempt u.operation id u.apply none).run (Race.handle script) Race.write
        (s.raceBefore id script server log k) =
      (.value (.crossed none), s.raceBefore id script server log (k + 1)) := by
  have hfault := u.fault?_apply hu (ScanJob.fault?_of_decode hdecode)
  obtain ⟨e, he⟩ := Server.find?_of_read_some hread
  have hmark := Interference.mark_act hscript he
  have hcommit : Race.handle script (.commit (s.keyFor id) ((Race.before script (s.keyFor id) server k).mark
      (s.keyFor id)) (u.apply job).toJson.render s.ttl.wholeSeconds) (s.raceBefore id script server log k) =
        (.failed (.fault Server.keyChanged), s.raceBefore id script server log (k + 1)) := by
    simp only [Race.handle, Race.crossed, raceBefore, Server.answer, Server.commit_changed hmark, Race.before]
    rfl
  rw [s.run_attempt_commit handle_watch (handle_readWatched hread) hdecode hfault hcommit]
  rfl

/-- An attempt that nobody crosses writes the changed job for the whole lifetime. -/
theorem run_attempt_quiet (hu : u.fault? = none)
    (hlife : (Race.before script (s.keyFor id) server k).expiryFault? s.ttl.wholeSeconds = none)
    (hread : (Race.before script (s.keyFor id) server k).read (s.keyFor id) = .ok (some text))
    (hdecode : ScanJob.decode text = .ok job) (hscript : script k = .nothing) :
    (s.attempt u.operation id u.apply none).run (Race.handle script) Race.write
        (s.raceBefore id script server log k) =
      (.value (.written (u.apply job)),
        ⟨(Race.before script (s.keyFor id) server k).put (s.keyFor id)
          ((Race.before script (s.keyFor id) server k).textFor (u.apply job).toJson.render s.ttl.wholeSeconds),
          k + 1, log⟩) := by
  have hfault := u.fault?_apply hu (ScanJob.fault?_of_decode hdecode)
  obtain ⟨e, he⟩ := Server.find?_of_read_some hread
  have hcommit : Race.handle script (.commit (s.keyFor id) ((Race.before script (s.keyFor id) server k).mark
      (s.keyFor id)) (u.apply job).toJson.render s.ttl.wholeSeconds) (s.raceBefore id script server log k) =
        (.value true, ⟨(Race.before script (s.keyFor id) server k).put (s.keyFor id)
          ((Race.before script (s.keyFor id) server k).textFor (u.apply job).toJson.render s.ttl.wholeSeconds),
          k + 1, log⟩) := by
    simp only [Race.handle, Race.crossed, raceBefore, Server.answer, hscript, Interference.act,
      Server.commit_unchanged hlife he]
    rfl
  rw [s.run_attempt_commit handle_watch (handle_readWatched hread) hdecode hfault hcommit]
  rfl

/-- Attempts that are crossed lead to the one after them, each with a line in the log. -/
theorem run_attempts_crossed (hu : u.fault? = none) (left : Nat)
    (hcrossed : ∀ j < k, s.IsCrossed id script server j) :
    (s.attempts u.operation id u.apply (k + left) 1 none).run (Race.handle script) Race.write
        (s.raceBefore id script server log 0) =
      (s.attempts u.operation id u.apply left (k + 1) none).run (Race.handle script) Race.write
        (s.raceBefore id script server (log ++ retryLines u.operation id k) k) := by
  induction k generalizing left with
  | zero => simp [retryLines]
  | succ k ih =>
    obtain ⟨text, job, hread, hdecode, hscript⟩ := hcrossed k (Nat.lt_succ_self k)
    rw [Nat.add_assoc, Nat.add_comm 1 left, ih (left + 1) fun j hj => hcrossed j (Nat.lt_succ_of_lt hj)]
    rw [attempts]
    simp only [bind, Program.andWith]
    rw [Program.run_andThen, run_attempt_crossed hu hread hdecode hscript, retryLines_succ, ← List.append_assoc]
    rfl

/-! ## The whole update -/

/-- How attempt `k` ends an update, and the world that the update leaves: the key is not there, its text is no
job, or nobody crosses the attempt and the changed job is written. -/
inductive Ends (s : JobStore) (u : Update) (id : String) (script : Nat → Interference) (server : Server)
    (log : List LogLine) (k : Nat) : Outcome ScanJob × Race → Prop
  | absent (hread : (Race.before script (s.keyFor id) server k).read (s.keyFor id) = .ok none) :
    Ends s u id script server log k
      (.failed (.store (notFound u.operation id)), s.raceBefore id script server log k)
  | undecodable (text : String) (r : Refusal)
    (hread : (Race.before script (s.keyFor id) server k).read (s.keyFor id) = .ok (some text))
    (hdecode : ScanJob.decode text = .error r) :
    Ends s u id script server log k
      (.failed (.store (corrupted u.operation id r)), s.raceBefore id script server log k)
  | written (text : String) (job : ScanJob) (after : String)
    (hread : (Race.before script (s.keyFor id) server k).read (s.keyFor id) = .ok (some text))
    (hdecode : ScanJob.decode text = .ok job) (hscript : script k = .nothing)
    (hencode : (u.apply job).encode = .ok after) :
    Ends s u id script server log k
      (.value (u.apply job),
        ⟨(Race.before script (s.keyFor id) server k).put (s.keyFor id)
          ((Race.before script (s.keyFor id) server k).textFor after s.ttl.wholeSeconds),
          k + 1, log ++ [s.doneLine id (u.apply job)]⟩)

/-- An attempt that is not crossed ends the update. -/
theorem ends_of_not_crossed (hu : u.fault? = none) (hkey : ∃ held, server.read (s.keyFor id) = .ok held)
    (hlife : server.expiryFault? s.ttl.wholeSeconds = none) (left : Nat)
    (hcrossed : ¬ s.IsCrossed id script server k) :
    Ends s u id script server log k
      ((s.attempts u.operation id u.apply (left + 1) (k + 1) none).run (Race.handle script) Race.write
        (s.raceBefore id script server log k)) := by
  have hthen : (Race.before script (s.keyFor id) server k).expiryFault? s.ttl.wholeSeconds = none :=
    (Server.expiryFault?_congr (Race.before_now k) _).trans hlife
  obtain ⟨held, hread⟩ := @Race.read_before script (s.keyFor id) server hkey k
  rw [attempts]
  simp only [bind, Program.andWith]
  rw [Program.run_andThen]
  cases held with
  | none =>
    rw [s.run_attempt_absent handle_watch (handle_readWatched hread)]
    exact .absent hread
  | some text =>
    cases hdecode : ScanJob.decode text with
    | error r =>
      rw [s.run_attempt_undecodable handle_watch (handle_readWatched hread) hdecode]
      exact .undecodable text r hread hdecode
    | ok job =>
      have hscript : script k = .nothing := by
        by_contra hscript
        exact hcrossed ⟨text, job, hread, hdecode, hscript⟩
      have hencode := ScanJob.encode_of_fault? (u.fault?_apply hu (ScanJob.fault?_of_decode hdecode))
      rw [run_attempt_quiet hu hthen hread hdecode hscript]
      exact .written text job _ hread hdecode hscript hencode

/-- The log of an update after `k` crossed attempts. -/
def racedLog (u : Update) (id : String) (k : Nat) : List LogLine :=
  debug id u.notice :: retryLines u.operation id k

theorem Ends.ofStore {result : Outcome ScanJob × Race} (h : Ends s u id script server log k result) :
    result.1.OfStore := by cases h <;> trivial

/-- No ending of an update but giving up is a conflict. -/
theorem Ends.not_conflict {result : Outcome ScanJob × Race} (h : Ends s u id script server log k result)
    {e : StoreError} (he : result.1 = .failed (.store e)) : e.kind ≠ .conflict := by
  cases h <;> cases he <;> nofun

/-- In a race only the loop of attempts decides what an update comes to. -/
theorem run_perform_of_attempts (htime : s.HasTime timeout) {result : Outcome ScanJob × Race}
    (hrun : (s.attempts u.operation id u.apply s.maxUpdateRetries.toNat 1 none).run (Race.handle script) Race.write
      (s.raceBefore id script server [debug id u.notice] 0) = result) (hresult : result.1.OfStore) :
    (s.perform u id timeout).run (Race.handle script) Race.write ⟨server, 0, []⟩ = result := by
  rw [perform_eq]
  exact s.run_call (fun _ _ => rfl) (fun _ => rfl) htime hrun hresult

/-- **The outcome of an update against any script.** Attempts are made in order, `maxAttempts` at most. Those that
are crossed leave a line each and nothing else; the first that is not ends the update; and the update gives up
exactly where all of them are crossed. -/
theorem perform_against (s : JobStore) (u : Update) (id : String) (timeout : Option Number)
    (script : Nat → Interference) (server : Server) (htime : s.HasTime timeout)
    (hlife : s.ttl.HasSecond) (hclock : Server.Tells server.now s.ttl.wholeSeconds)
    (hu : u.fault? = none) (hkey : ∃ held, server.read (s.keyFor id) = .ok held) :
    ∃ k result, (s.perform u id timeout).run (Race.handle script) Race.write ⟨server, 0, []⟩ = result ∧
      (∀ j < k, s.IsCrossed id script server j) ∧
      (k = s.maxUpdateRetries.toNat ∧ result = (.failed (.store (s.gaveUp u.operation id)),
          s.raceBefore id script server (racedLog u id k) k) ∨
        k < s.maxUpdateRetries.toNat ∧ Ends s u id script server (racedLog u id k) k result) ∧
      ((∃ e, result.1 = .failed (.store e) ∧ e.kind = .conflict) ↔
        ∀ j < s.maxUpdateRetries.toNat, s.IsCrossed id script server j) := by
  have htaken := Server.expiryFault?_eq_none hlife.one_le hclock
  by_cases hall : ∀ j < s.maxUpdateRetries.toNat, s.IsCrossed id script server j
  · refine ⟨s.maxUpdateRetries.toNat, _, run_perform_of_attempts htime (run_attempts_crossed hu 0 hall) trivial, hall,
      .inl ⟨rfl, rfl⟩, fun _ => hall, fun _ => ⟨_, rfl, rfl⟩⟩
  · classical
    have hsome : ∃ j, j < s.maxUpdateRetries.toNat ∧ ¬ s.IsCrossed id script server j := by
      by_contra hnone
      exact hall fun j hj => by_contra fun hj' => hnone ⟨j, hj, hj'⟩
    -- the first attempt that is not crossed
    obtain ⟨hk, hnot⟩ := Nat.find_spec hsome
    have hfirst : ∀ j < Nat.find hsome, s.IsCrossed id script server j := fun j hj =>
      by_contra fun hj' => Nat.find_min hsome hj ⟨hj.trans hk, hj'⟩
    generalize Nat.find hsome = k at hk hnot hfirst
    obtain ⟨left, hleft⟩ : ∃ left, s.maxUpdateRetries.toNat = k + (left + 1) :=
      ⟨s.maxUpdateRetries.toNat - (k + 1), by omega⟩
    have hends : Ends s u id script server (racedLog u id k) k _ := ends_of_not_crossed hu hkey htaken left hnot
    rw [racedLog, ← List.singleton_append, ← run_attempts_crossed hu (left + 1) hfirst, ← hleft] at hends
    exact ⟨k, _, run_perform_of_attempts htime rfl hends.ofStore, hfirst, .inr ⟨hk, hends⟩,
      fun ⟨e, he, hkind⟩ => absurd hkind (hends.not_conflict he), fun h => absurd h hall⟩

/-- A server that has a job. -/
def sampleServer : Server :=
  Server.empty.put (sampleStore.keyFor "job-1") (Server.empty.textFor ScanJob.sample.toJson.render 3600)

/-- Somebody overwrites the job at the first attempt, and nobody does anything later. -/
def overwritten (k : Nat) : Interference := if k = 0 then .write "{}" none else .nothing

/-- The update gives up if both attempts are crossed, and they are not. -/
theorem perform_against_overwritten :
    (∃ e, ((sampleStore.perform (.moveTo .failed (some "boom")) "job-1" none).run (Race.handle overwritten) Race.write
        ⟨sampleServer, 0, []⟩).1 = .failed (.store e) ∧ e.kind = .conflict) ↔
      ∀ j < 2, sampleStore.IsCrossed "job-1" overwritten sampleServer j := by
  obtain ⟨k, result, hrun, -, -, hconflict⟩ :=
    perform_against sampleStore (.moveTo .failed (some "boom")) "job-1" none overwritten sampleServer nofun
      (show 1 ≤ (3600 : Int) by decide) ⟨by decide, by decide⟩ rfl ⟨_, Server.read_put_textFor (by decide)⟩
  rw [hrun]
  exact hconflict

end JobStore

end ScanAdapter
