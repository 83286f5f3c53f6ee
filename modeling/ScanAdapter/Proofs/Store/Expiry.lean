import ScanAdapter.Proofs.Store.Crowd
import ScanAdapter.Proofs.Store.Operation

/-!
# Jobs that expire

A job may go away at any moment of an update: before it is read, after that, or just before it is written. Only a
create makes it appear again. An update that finds no job, at its reading or at its writing, has nothing left to do
but to say so, and one that comes back has found the job there to be written over.
-/
namespace ScanAdapter

/-- What a client knows is what it has found. -/
structure Progress.Agrees (k : Progress) (f : Finding) : Prop where
  missing : f = .missing → k = .absent
  vanished : f = .vanished → k = .gone
  present : ∀ before, k = .written (some before) → f = .present

/-- All that is left of the program are lines of the log and the stop of its timer. -/
inductive Program.Closes {α : Type} (o : Outcome α) : Program α → Prop
  | done : Closes o (.done o)
  | note {line : LogLine} {p : Program α} (h : Closes o p) : Closes o (.note line p)
  | stopTimer {next : Outcome Unit → Program α} (h : Closes o (next (.value ()))) : Closes o (.ask .stopTimer next)

/-! ## One client -/

namespace Caller

variable {c : Caller} {id : String} {k : Progress} {p : Program Answer} {o : Outcome Answer}

/-- A call that has come to its end closes. -/
theorem closes_of_ended (hmay : ∀ q, c.May id k q → q = .stopTimer) (hends : ∀ o', c.Ends id k o' → o' = o)
    (h : p.Follows (c.protocol id) (c.Ends id) k) : p.Closes o := by
  induction p with
  | done o' =>
    rw [hends o' h]
    exact .done
  | note line p ih => exact .note (ih h)
  | ask q p ih =>
    obtain ⟨hq, hnext⟩ := h
    obtain rfl := hmay q hq
    obtain ⟨k', rfl, hthen⟩ := hnext (.value ()) trivial
    have hk : k.after .stopTimer (.value ()) = k := by cases k <;> rfl
    rw [hk] at hthen
    exact .stopTimer (ih _ hthen)

theorem closes_absent {u : Update} (hcall : c.call = .update u) (h : p.Follows (c.protocol id) (c.Ends id) .absent) :
    p.Closes (.failed (.store (JobStore.notFound u.operation id))) := by
  refine closes_of_ended (k := .absent) (fun _ hq => hq) (fun o hends => ?_) h
  cases hends with
  | notFound hget =>
    rw [hcall] at hget
    cases hget
  | absent hcall' =>
    rw [hcall] at hcall'
    cases hcall'
    rfl

theorem closes_gone {u : Update} (hcall : c.call = .update u) (h : p.Follows (c.protocol id) (c.Ends id) .gone) :
    p.Closes (.failed (.store (JobStore.expired u.operation id))) := by
  refine closes_of_ended (k := .gone) (fun _ hq => hq) (fun o hends => ?_) h
  cases hends with
  | gone hcall' =>
    rw [hcall] at hcall'
    cases hcall'
    rfl

/-- Only a create sets a new key. -/
theorem ne_setIfAbsent {q : Request} (hcall : ∀ job, c.call ≠ .create job) (hq : c.May id k q) (key text : String)
    (seconds : Int) : q ≠ .setIfAbsent key text seconds := by
  rintro rfl
  obtain ⟨mark, held, crossed, rfl⟩ := active_of_isCommand hq rfl
  obtain ⟨-, -, job, hcreate, -⟩ := hq
  exact hcall job hcreate

end Caller

namespace Progress.Agrees

variable {k k' : Progress} {f : Finding} {mark : Option Nat} {held : Option String} {crossed : Nat}

/-- A client that goes on has missed nothing. -/
theorem of_active (h : (Progress.active mark held crossed).Agrees f) (hk : ∀ before, k ≠ .written (some before)) :
    k.Agrees f :=
  ⟨fun hf => Progress.noConfusion (h.missing hf), fun hf => Progress.noConfusion (h.vanished hf),
    fun before hwritten => absurd hwritten (hk before)⟩

/-- To find nothing says nothing. -/
theorem nothing (hk : ∀ before, k ≠ .written (some before)) : k.Agrees .nothing :=
  ⟨nofun, nofun, fun before hwritten => absurd hwritten (hk before)⟩

theorem of_absent : Progress.absent.Agrees .missing := ⟨fun _ => rfl, nofun, nofun⟩

theorem of_gone : Progress.gone.Agrees .vanished := ⟨nofun, fun _ => rfl, nofun⟩

theorem of_written (before : Option String) : (Progress.written before).Agrees .present :=
  ⟨nofun, nofun, fun _ _ => rfl⟩

/-- After the answer of the server a client knows what it has found. -/
theorem answer {c : Caller} {id : String} {q : Request} (server : Server) (hmay : c.May id k q)
    (hq : q.isCommand = true) (h : k.Agrees f) : (k.after q (server.answer q).1).Agrees (server.finding f q) := by
  obtain ⟨mark, held, crossed, rfl⟩ := Caller.active_of_isCommand hmay hq
  cases q with
  | currentTime | startTimer _ | stopTimer | scan => cases hq
  | setIfAbsent key text seconds =>
    refine h.of_active fun before => ?_
    rcases server.setIfAbsent_cases key text seconds with ⟨fault, hset⟩ | hset | ⟨hset, -, -⟩ <;>
    · rw [Server.answer_setIfAbsent hset]
      nofun
  | read key =>
    refine h.of_active fun before => ?_
    cases hread : server.read key with
    | error fault =>
      rw [Server.answer_read_error hread]
      nofun
    | ok held =>
      rw [Server.answer_read hread]
      cases held <;> nofun
  | watch key => exact h.of_active nofun
  | readWatched key =>
    cases hfind : server.find? key with
    | none =>
      rw [Server.answer_readWatched (Server.read_of_find?_none hfind), Server.finding_missing hfind]
      exact of_absent
    | some e =>
      rw [Server.finding_readWatched hfind]
      refine h.of_active fun before => ?_
      cases hread : server.read key with
      | error fault =>
        rw [Server.answer_readWatched_error hread]
        exact Progress.afterFailure_ne_written _ _ _ _
      | ok held =>
        rw [Server.answer_readWatched hread]
        cases held <;> nofun
  | commit key m text seconds =>
    rcases server.finding_commit_cases f key m text seconds with
      ⟨hfinding, fault, hcommit⟩ | ⟨hfinding, hcommit⟩ | ⟨hfinding, hcommit⟩
    · rw [hfinding, Server.answer_commit hcommit]
      exact .nothing fun before => Progress.afterFailure_ne_written _ _ _ _
    · rw [hfinding, Server.answer_commit hcommit]
      exact of_gone
    · rw [hfinding, Server.answer_commit hcommit]
      exact of_written _

/-- To stop or to start a timer, and to be failed by a command, is to find nothing. -/
theorem other {c : Caller} {id : String} {q : Request} {o : Outcome q.Reply} (hmay : c.May id k q)
    (ho : q.isCommand = false ∨ ∃ failure, o = .failed failure) (h : k.Agrees f) : (k.after q o).Agrees f := by
  cases k with
  | absent | gone | taken | written _ | broken _ =>
    obtain rfl : q = .stopTimer := hmay
    exact h
  | active mark held crossed =>
    refine h.of_active fun before => ?_
    rcases ho with hq | ⟨failure, rfl⟩
    · cases q with
      | setIfAbsent _ _ _ | read _ | watch _ | readWatched _ | commit _ _ _ _ => cases hq
      | currentTime | startTimer _ | stopTimer | scan => nofun
    · cases q with
      | watch _ | readWatched _ | commit _ _ _ _ => exact Progress.afterFailure_ne_written _ _ _ _
      | _ => nofun

end Progress.Agrees

/-! ## All clients -/

namespace Crowd

variable {ι : Type} {callers : ι → Caller} {ids : ι → String} {c c' : Crowd ι Answer}

/-- Each client makes its call on the job of its identity. -/
def callsOn (server : Server) (callers : ι → Caller) (ids : ι → String) : Crowd ι Answer :=
  start server fun i => (callers i).program ((callers i).call.on (ids i))

/-- What holds at all times: each client keeps to the protocol of its call, and knows what it has found. -/
def Inv (callers : ι → Caller) (ids : ι → String) (c : Crowd ι Answer) : Prop :=
  ∀ i, ∃ k, (c.programs i).Follows ((callers i).protocol ((callers i).call.on (ids i)))
    ((callers i).Ends ((callers i).call.on (ids i))) k ∧ k.Agrees (c.findings i)

theorem inv_callsOn (server : Server) : Inv callers ids (callsOn server callers ids) := fun i =>
  ⟨.begun, (callers i).follows_program (ids i), .nothing nofun⟩

/-- A client that is about to ask for something may do so, and goes on with what it then knows. -/
theorem Inv.asks {i : ι} {q : Request} {next : Outcome q.Reply → Program Answer} (h : Inv callers ids c)
    (hprogram : c.programs i = .ask q next) :
    ∃ k : Progress, k.Agrees (c.findings i) ∧ (callers i).May ((callers i).call.on (ids i)) k q ∧
      ∀ o, q.MayBring o → (next o).Follows ((callers i).protocol ((callers i).call.on (ids i)))
        ((callers i).Ends ((callers i).call.on (ids i))) (k.after q o) := by
  obtain ⟨k, hfollows, hk⟩ := h i
  rw [hprogram] at hfollows
  obtain ⟨hmay, hnext⟩ := hfollows
  refine ⟨k, hk, hmay, fun o ho => ?_⟩
  obtain ⟨k', rfl, hthen⟩ := hnext o ho
  exact hthen

variable [DecidableEq ι]

/-- A step of one client leaves the others where they are. -/
theorem Inv.resume {i : ι} {p : Program Answer} {k : Progress} {f : Finding} (h : Inv callers ids c) (server : Server)
    (hp : p.Follows ((callers i).protocol ((callers i).call.on (ids i)))
      ((callers i).Ends ((callers i).call.on (ids i))) k) (hk : k.Agrees f) :
    Inv callers ids ⟨server, Function.update c.programs i p, Function.update c.findings i f⟩ := by
  intro j
  by_cases hj : j = i
  · subst hj
    simp only [Function.update_self]
    exact ⟨k, hp, hk⟩
  · simp only [Function.update_of_ne hj]
    exact h j

/-- A client that has found nothing new goes on. -/
theorem Inv.goOn {i : ι} {p : Program Answer} {k : Progress} (h : Inv callers ids c) (server : Server)
    (hp : p.Follows ((callers i).protocol ((callers i).call.on (ids i)))
      ((callers i).Ends ((callers i).call.on (ids i))) k) (hk : k.Agrees (c.findings i)) :
    Inv callers ids ⟨server, Function.update c.programs i p, c.findings⟩ := by
  have hthen := h.resume server hp hk
  rwa [Function.update_eq_self] at hthen

/-- **A step keeps the invariant**, whoever takes it. -/
theorem Inv.step {happening : Happening ι} (hstep : Step c happening c') (h : Inv callers ids c) :
    Inv callers ids c' := by
  cases hstep with
  | tick seconds => exact h
  | vanish key noticed => exact h
  | @note i line next hprogram =>
    obtain ⟨k, hfollows, hk⟩ := h i
    rw [hprogram] at hfollows
    exact h.goOn (p := next) c.server hfollows hk
  | @answer i q next hprogram hq =>
    obtain ⟨k, hk, hmay, hnext⟩ := h.asks hprogram
    exact h.resume _ (hnext _ (c.server.mayBring_answer hq)) (hk.answer c.server hmay hq)
  | @bring i q next hprogram hq o ho =>
    obtain ⟨k, hk, hmay, hnext⟩ := h.asks hprogram
    exact h.goOn c.server (hnext o ho) (hk.other hmay (.inl hq))
  | @fail i q next hprogram hq f | @lose i q next hprogram hq f =>
    obtain ⟨k, hk, hmay, hnext⟩ := h.asks hprogram
    exact h.goOn _ (hnext (.failed f) (Request.isTimer_of_isCommand hq)) (hk.other hmay (.inr ⟨f, rfl⟩))

theorem inv_of_reaches {server : Server} (h : Reaches (callsOn server callers ids) c) : Inv callers ids c := by
  induction h with
  | refl => exact inv_callsOn server
  | tail _ hstep ih =>
    obtain ⟨happening, hstep⟩ := hstep
    exact ih.step hstep

/-- A client that does not create a job leaves no key where there was none. -/
theorem Inv.find?_eq_none {i : ι} {key : String} (h : Inv callers ids c) (hstep : Step c (.turn i) c')
    (hcall : ∀ job, (callers i).call ≠ .create job) (hfree : c.server.find? key = none) :
    c'.server.find? key = none := by
  cases hstep with
  | note _ => exact hfree
  | bring _ _ _ => exact hfree
  | fail _ _ _ => exact hfree
  | @answer _ q next hprogram hq | @lose _ q next hprogram hq f =>
    obtain ⟨k, -, hmay, -⟩ := h.asks hprogram
    exact Server.find?_answer_of_none (Caller.ne_setIfAbsent hcall hmay) hfree

/-- **Only a create makes a job appear.** However clients take turns, and whenever keys vanish or commands fail, no
step of a client that does not create a job makes a key appear. An update that found no key to be read, or none to
be written over, has nothing left to do but to say so; and one that comes back has found the key at its last
commit. -/
theorem appears_by_create_only {server : Server} (h : Reaches (callsOn server callers ids) c) :
    (∀ i c', Step c (.turn i) c' → (∀ job, (callers i).call ≠ .create job) → ∀ key,
      c.server.find? key = none → c'.server.find? key = none) ∧
    ∀ i u, (callers i).call = .update u →
      (c.findings i = .missing → (c.programs i).Closes (.failed (.store (JobStore.notFound u.operation (ids i))))) ∧
      (c.findings i = .vanished → (c.programs i).Closes (.failed (.store (JobStore.expired u.operation (ids i))))) ∧
      ∀ a, c.programs i = .done (.value a) → c.findings i = .present := by
  have hinv := inv_of_reaches h
  refine ⟨fun i c' hstep hcall key hfree => hinv.find?_eq_none hstep hcall hfree, fun i u hcall => ?_⟩
  obtain ⟨k, hfollows, hk⟩ := hinv i
  have hid : (callers i).call.on (ids i) = ids i := by rw [hcall]; rfl
  rw [hid] at hfollows
  refine ⟨fun hmissing => ?_, fun hvanished => ?_, fun a hdone => ?_⟩
  · rw [hk.missing hmissing] at hfollows
    exact Caller.closes_absent hcall hfollows
  · rw [hk.vanished hvanished] at hfollows
    exact Caller.closes_gone hcall hfollows
  · rw [hdone] at hfollows
    obtain ⟨before, hwritten⟩ := Caller.written_of_value hcall hfollows
    exact hk.present before hwritten

/-- A client creates a job, and another comes to move it after the job has expired. -/
def lateCallers (creates : Bool) : Caller where
  store := JobStore.sampleStore
  call := if creates then .create ⟨"job-1", .queued, none, none⟩ else .update (.moveTo .failed (some "boom"))
  timeout := none

theorem appears_by_create_only_late : ∃ c : Crowd Bool Answer,
    Reaches (callsOn Server.empty lateCallers fun _ => "job-1") c ∧
      c.server.entries.length = 1 ∧ c.findings false = .missing ∧
      (c.programs false).Closes (.failed (.store (JobStore.notFound .updateStatus "job-1"))) := by
  have hcreated := (Reaches.refl (callsOn Server.empty lateCallers fun _ => "job-1")).note (i := true) rfl
  have hlate := (hcreated.answer (i := true) rfl rfl).tick 3601
  have hreaches := ((hlate.note (i := false) rfl).answer (i := false) rfl rfl).answer (i := false) rfl rfl
  exact ⟨_, hreaches, rfl, rfl, ((appears_by_create_only hreaches).2 false _ rfl).1 rfl⟩

end Crowd

end ScanAdapter
