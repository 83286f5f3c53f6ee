import ScanAdapter.Proofs.Store.Keys
import ScanAdapter.Proofs.Store.Session
import Mathlib.Logic.Function.Basic
import Mathlib.Logic.Relation

/-!
# A pool of clients

Any number of clients call the job store on one job at the same time. The server carries out their requests one by
one, in any order, and each client goes on with the answer that it gets. Beside that the pool keeps who has written,
so that it can be said what the record should be.
-/
namespace ScanAdapter

/-- A server and what its clients are about to do. The clients whose job was set and those whose update was
committed are kept, in order. -/
structure Pool (ι : Type) where
  server : Server
  programs : ι → Program Answer
  creations : List ι
  commits : List ι

/-- The request has created the job. -/
def Request.creates : (q : Request) → Outcome q.Reply → Bool
  | .setIfAbsent _ _ _, .value true => true
  | _, _ => false

/-- The request has committed an update. -/
def Request.commits : (q : Request) → Outcome q.Reply → Bool
  | .commit _ _ _ _, .value true => true
  | _, _ => false

namespace Pool

variable {ι : Type} [DecidableEq ι]

/-- The clients begin their calls on the job of the given identity. -/
def start (server : Server) (callers : ι → Caller) (id : String) : Pool ι where
  server := server
  programs i := (callers i).program id
  creations := []
  commits := []

/-- The server carries out a request of a client. -/
def serve (p : Pool ι) (i : ι) (q : Request) : Pool ι where
  server := (p.server.answer q).2
  programs := p.programs
  creations := if q.creates (p.server.answer q).1 then p.creations ++ [i] else p.creations
  commits := if q.commits (p.server.answer q).1 then p.commits ++ [i] else p.commits

/-- A client goes on. -/
def resume (p : Pool ι) (i : ι) (program : Program Answer) : Pool ι :=
  { p with programs := Function.update p.programs i program }

/-- A step of one of the clients, or of the clock. A request is answered; or the call is cut off before it, or
after it so that the answer is lost. The clock does not run so far that the key expires. -/
inductive Step (key : String) (p : Pool ι) : Pool ι → Prop
  | note {i : ι} {line : LogLine} {next : Program Answer} (h : p.programs i = .note line next) :
    Step key p (p.resume i next)
  | ask {i : ι} {q : Request} {next : Outcome q.Reply → Program Answer} (h : p.programs i = .ask q next) :
    Step key p ((p.serve i q).resume i (next (p.server.answer q).1))
  | cut {i : ι} {q : Request} {next : Outcome q.Reply → Program Answer} (h : p.programs i = .ask q next) (t : Nat) :
    Step key p (p.resume i (next (.failed (.overdue t))))
  | lost {i : ι} {q : Request} {next : Outcome q.Reply → Program Answer} (h : p.programs i = .ask q next) (t : Nat) :
    Step key p ((p.serve i q).resume i (next (.failed (.overdue t))))
  | tick (seconds : Nat) (h : ∀ e ∈ p.server.find? key, e.isAliveAt (p.server.now + seconds) = true) :
    Step key p { p with server := p.server.advance seconds }

/-- A client goes on, and nothing cuts its call off. -/
def turn (p : Pool ι) (i : ι) : Pool ι :=
  match p.programs i with
  | .done _ => p
  | .note _ next => p.resume i next
  | .ask q next => (p.serve i q).resume i (next (p.server.answer q).1)

/-- The clients go on one after the other, in this order. -/
def turns (p : Pool ι) (order : List ι) : Pool ι := order.foldl turn p

/-- Turns are steps. -/
theorem steps_turns (key : String) (p : Pool ι) (order : List ι) :
    Relation.ReflTransGen (Step key) p (p.turns order) := by
  induction order generalizing p with
  | nil => exact .refl
  | cons i order ih =>
    refine Relation.ReflTransGen.trans ?_ (ih (p.turn i))
    unfold turn
    split
    · exact .refl
    · exact .single (.note ‹_›)
    · exact .single (.ask ‹_›)

/-- The line that a client is about to log. -/
def line? (p : Pool ι) (i : ι) : Option LogLine :=
  match p.programs i with
  | .note line _ => some line
  | _ => none

/-- The job that there was in the beginning, or else the one that was created. -/
def origin (callers : ι → Caller) (initial : Option ScanJob) (p : Pool ι) : Option ScanJob :=
  initial.or (p.creations.head?.bind fun i => (callers i).call.job?)

/-- The updates that were committed, in order. -/
def updates (callers : ι → Caller) (p : Pool ι) : List Update := p.commits.filterMap fun i => (callers i).call.update?

/-- The job as it has become. -/
def record (callers : ι → Caller) (initial : Option ScanJob) (p : Pool ι) : Option ScanJob :=
  (p.origin callers initial).map fun job => job.after (p.updates callers)

end Pool

/-! ## The record -/

/-- The key holds the text of a job, or nothing. -/
def Server.Keeps (s : Server) (key : String) : Option ScanJob → Prop
  | none => s.find? key = none
  | some job => ∃ text e, job.encode = .ok text ∧ s.find? key = some e ∧ e.content = .text (Text.encodeUtf8 text)

namespace Server

variable {s : Server} {key : String} {record : Option ScanJob}

theorem Keeps.read (h : s.Keeps key record) : ∃ held, s.read key = .ok held := by
  cases record with
  | none => exact ⟨none, read_of_find?_none h⟩
  | some job =>
    obtain ⟨text, e, -, hfind, hcontent⟩ := h
    exact ⟨some text, read_of_find? hfind hcontent⟩

theorem Keeps.eq_none (h : s.Keeps key record) (hfree : s.find? key = none) : record = none := by
  cases record with
  | none => rfl
  | some job =>
    obtain ⟨text, e, -, hfind, -⟩ := h
    rw [hfree] at hfind
    cases hfind

theorem Keeps.eq_some {e : Entry} {text : String} (h : s.Keeps key record) (hfind : s.find? key = some e)
    (hread : s.read key = .ok (some text)) : ∃ job, record = some job ∧ job.encode = .ok text := by
  cases record with
  | none =>
    rw [Keeps, hfind] at h
    cases h
  | some job =>
    obtain ⟨text', e', hencode, hfind', hcontent⟩ := h
    rw [read_of_find? hfind' hcontent] at hread
    cases hread
    exact ⟨job, rfl, hencode⟩

theorem keeps_put {job : ScanJob} {text : String} {seconds : Int} (hencode : job.encode = .ok text)
    (hseconds : 0 ≤ seconds) : (s.put key (s.textFor text seconds)).Keeps key (some job) :=
  ⟨text, _, hencode, find?_put_textFor hseconds, rfl⟩

end Server

namespace Pool

variable {ι : Type} {callers : ι → Caller} {initial : Option ScanJob} {p : Pool ι} {i : ι} {job : ScanJob}

theorem record_namesDiffer (hinitial : ∀ job ∈ initial, job.NamesDiffer)
    (hcallers : ∀ i, (callers i).call.NamesDiffer) (h : p.record callers initial = some job) :
    job.NamesDiffer := by
  obtain ⟨job, horigin, rfl⟩ := Option.map_eq_some_iff.1 h
  refine ScanJob.namesDiffer_after ?_ fun u hu => ?_
  · rcases Option.or_eq_some_iff.1 horigin with hjob | ⟨-, hjob⟩
    · exact hinitial job hjob
    · obtain ⟨i, -, hi⟩ := Option.bind_eq_some_iff.1 hjob
      exact (hcallers i).1 job hi
  · obtain ⟨i, -, hi⟩ := List.mem_filterMap.1 hu
    exact (hcallers i).2 u hi

/-- The first job is the record. -/
theorem record_create (hnone : p.record callers initial = none) (hcreations : p.creations = [])
    (hcommits : p.commits = []) (hcall : (callers i).call = .create job) (server : Server) :
    (⟨server, p.programs, p.creations ++ [i], p.commits⟩ : Pool ι).record callers initial = some job := by
  have hinitial : initial = none := (Option.or_eq_none_iff.1 (Option.map_eq_none_iff.1 hnone)).1
  simp [record, origin, updates, hinitial, hcreations, hcommits, hcall, Call.job?]

/-- One commit more makes one change more. -/
theorem record_commit {u : Update} (hjob : p.record callers initial = some job)
    (hcall : (callers i).call = .update u) (server : Server) :
    (⟨server, p.programs, p.creations, p.commits ++ [i]⟩ : Pool ι).record callers initial = some (u.apply job) := by
  obtain ⟨first, horigin, rfl⟩ := Option.map_eq_some_iff.1 hjob
  have hupdates : (⟨server, p.programs, p.creations, p.commits ++ [i]⟩ : Pool ι).updates callers =
      p.updates callers ++ [u] := by
    simp [updates, hcall, Call.update?]
  rw [record, hupdates, ← ScanJob.after_concat]
  exact Option.map_eq_some_iff.2 ⟨first, horigin, rfl⟩

/-- The record has the identity that all jobs of the clients have. -/
theorem record_id {id : String} (hinitial : ∀ job ∈ initial, job.id = id)
    (hid : ∀ i job, (callers i).call = .create job → job.id = id) (h : p.record callers initial = some job) :
    job.id = id := by
  obtain ⟨first, horigin, rfl⟩ := Option.map_eq_some_iff.1 h
  rw [ScanJob.after_id]
  rcases Option.or_eq_some_iff.1 horigin with hfirst | ⟨-, hfirst⟩
  · exact hinitial first hfirst
  · obtain ⟨i, -, hcall⟩ := Option.bind_eq_some_iff.1 hfirst
    exact hid i first (Call.eq_create_of_job? hcall)

/-- Requests that have no effect on the server. -/
theorem serve_quiet {q : Request} {reply : Outcome q.Reply} (h : p.server.answer q = (reply, p.server))
    (hcreates : q.creates reply = false) (hcommits : q.commits reply = false) : p.serve i q = p := by
  rw [serve, h, hcreates, hcommits]
  rfl

end Pool

end ScanAdapter
