import ScanAdapter.Proofs.Store.Keys
import ScanAdapter.Proofs.Store.Protocol
import Mathlib.Logic.Function.Basic
import Mathlib.Logic.Relation

/-!
# Clients of one server

Any number of clients carry out programs of their own on one server, request by request and in any order. A command
may fail before it takes effect, and its answer may be lost after that. Time passes, and keys vanish at any moment,
whether or not those who watch them get to know of it.
-/
namespace ScanAdapter

/-- What the last command of an update has found. -/
inductive Finding
  | nothing
  /-- There was no key to be read. -/
  | missing
  /-- There was no key to be written over. -/
  | vanished
  /-- There was a key to be written over. -/
  | present
  deriving DecidableEq, Repr

namespace Server

/-- A key goes away, and those who watch it get to know of it or not. -/
def vanish (s : Server) (key : String) (noticed : Bool) : Server :=
  { s with
    entries := s.entries.filter (·.1 != key)
    changes := if noticed then key :: s.changes else s.changes }

/-- A commit is not carried out when the key was changed since the mark, or for a bad lifetime. -/
def finding (s : Server) (before : Finding) : Request → Finding
  | .readWatched key => if (s.find? key).isNone then .missing else before
  | .commit key mark _ seconds =>
    if s.mark key ≠ mark ∨ (s.expiryFault? seconds).isSome then .nothing
    else if (s.find? key).isNone then .vanished
    else .present
  | _ => before

variable {s : Server} {key : String}

theorem finding_missing {before : Finding} (h : s.find? key = none) :
    s.finding before (.readWatched key) = .missing := by
  rw [finding, h]
  rfl

theorem finding_readWatched {before : Finding} {e : Entry} (h : s.find? key = some e) :
    s.finding before (.readWatched key) = before := by
  rw [finding, h]
  rfl

/-- What a commit finds goes with what becomes of it. -/
theorem finding_commit_cases (s : Server) (before : Finding) (key : String) (mark : Nat) (text : String)
    (seconds : Int) :
    s.finding before (.commit key mark text seconds) = .nothing ∧
        (∃ f, s.commit key mark text seconds = (.error f, s)) ∨
      s.finding before (.commit key mark text seconds) = .vanished ∧
        s.commit key mark text seconds = (.ok false, s) ∨
      s.finding before (.commit key mark text seconds) = .present ∧
        s.commit key mark text seconds = (.ok true, s.put key (s.textFor text seconds)) := by
  rw [finding]
  by_cases hmark : s.mark key = mark
  · subst hmark
    cases hlife : s.expiryFault? seconds with
    | some fault =>
      refine .inl ⟨if_pos (.inr rfl), inTransaction key fault.message, ?_⟩
      rw [commit, if_neg (not_not_intro rfl), hlife]
    | none =>
      rw [if_neg (by simp)]
      cases hfind : s.find? key with
      | none =>
        refine .inr (.inl ⟨if_pos rfl, ?_⟩)
        rw [commit, if_neg (not_not_intro rfl), hlife, hfind]
      | some e => exact .inr (.inr ⟨if_neg Bool.false_ne_true, commit_unchanged hlife hfind⟩)
  · exact .inl ⟨if_pos (.inl hmark), _, commit_changed hmark⟩

theorem find?_vanish (s : Server) (key other : String) (noticed : Bool) :
    (s.vanish key noticed).find? other = if other = key then none else s.find? other := by
  by_cases h : other = key
  · rw [if_pos h, h]
    exact find?_remove_self s key
  · rw [if_neg h, find?, vanish]
    dsimp only
    rw [lookup_filter_ne key other _ h]
    rfl

/-- The server always answers its commands. -/
theorem mayBring_answer {q : Request} (s : Server) (hq : q.isCommand = true) : q.MayBring (s.answer q).1 := by
  have hexcept : ∀ r : Except Fault q.Reply, q.MayBring (.ofExcept r) := by
    intro r
    cases r with
    | error f => exact Request.isTimer_of_isCommand hq
    | ok a =>
      refine Request.sound_of_ne_scan ?_ a
      rintro rfl
      cases hq
  cases q with
  | setIfAbsent key text seconds => exact hexcept (s.setIfAbsent key text seconds).1
  | read key => exact hexcept (s.read key)
  | watch key => trivial
  | readWatched key => exact hexcept (s.read key)
  | commit key mark text seconds => exact hexcept (s.commit key mark text seconds).1
  | currentTime | startTimer _ | stopTimer | scan => cases hq

/-- Nothing but setting a new key makes a key appear. -/
theorem find?_answer_of_none {q : Request} (hq : ∀ key text seconds, q ≠ .setIfAbsent key text seconds)
    (h : s.find? key = none) : (s.answer q).2.find? key = none := by
  cases q with
  | setIfAbsent key text seconds => exact absurd rfl (hq key text seconds)
  | commit other mark text seconds =>
    rcases s.answer_commit_cases other mark text seconds with hsame | ⟨hput, -, ⟨e, he⟩, -⟩
    · rw [hsame]
      exact h
    · have hne : key ≠ other := by
        rintro rfl
        rw [h] at he
        cases he
      rw [hput, find?_put_of_ne _ _ hne]
      exact h
  | _ => exact h

/-- No command makes a key go away. -/
theorem isSome_find?_answer {q : Request} (h : (s.find? key).isSome) : ((s.answer q).2.find? key).isSome := by
  have hput : ∀ (other text : String) (seconds : Int), 0 ≤ seconds →
      ((s.put other (s.textFor text seconds)).find? key).isSome := by
    intro other text seconds hseconds
    by_cases hkey : key = other
    · rw [hkey, find?_put_textFor hseconds]
      rfl
    · rw [find?_put_of_ne _ _ hkey]
      exact h
  cases q with
  | setIfAbsent other text seconds =>
    rcases s.answer_setIfAbsent_cases other text seconds with hsame | ⟨hset, -, hseconds⟩
    · rwa [hsame]
    · rw [hset]
      exact hput other text seconds hseconds
  | commit other mark text seconds =>
    rcases s.answer_commit_cases other mark text seconds with hsame | ⟨hset, -, -, hseconds⟩
    · rwa [hsame]
    · rw [hset]
      exact hput other text seconds hseconds
  | _ => exact h

end Server

/-- An answer in a world where nothing comes of a request but `f`. Timers do not fail. -/
def Request.failWith (f : Failure) : (q : Request) → Outcome q.Reply
  | startTimer _ => .value (0 : Nat)
  | stopTimer => .value ()
  | _ => .failed f

theorem Request.mayBring_failWith (f : Failure) (q : Request) : q.MayBring (q.failWith f) := by
  cases q with
  | startTimer _ | stopTimer => trivial
  | _ => rfl

/-- A server, what its clients are about to do, and what each has found. -/
structure Crowd (ι α : Type) where
  server : Server
  programs : ι → Program α
  findings : ι → Finding

/-- What happens: a client goes on, time passes, or a key vanishes. -/
inductive Happening (ι : Type)
  | turn (i : ι)
  | tick (seconds : Nat)
  | vanish (key : String) (noticed : Bool)
  deriving DecidableEq, Repr

namespace Crowd

variable {ι α : Type} [DecidableEq ι]

/-- The clients begin. -/
def start (server : Server) (programs : ι → Program α) : Crowd ι α := ⟨server, programs, fun _ => .nothing⟩

/-- The server carries out a command of a client. -/
def serve (c : Crowd ι α) (i : ι) (q : Request) : Crowd ι α where
  server := (c.server.answer q).2
  programs := c.programs
  findings := Function.update c.findings i (c.server.finding (c.findings i) q)

/-- A client goes on. -/
def resume (c : Crowd ι α) (i : ι) (p : Program α) : Crowd ι α :=
  { c with programs := Function.update c.programs i p }

/-- One step. Whatever is no command of the server may be answered with anything that it may bring. -/
inductive Step (c : Crowd ι α) : Happening ι → Crowd ι α → Prop
  | note {i : ι} {line : LogLine} {next : Program α} (h : c.programs i = .note line next) :
    Step c (.turn i) (c.resume i next)
  | answer {i : ι} {q : Request} {next : Outcome q.Reply → Program α} (h : c.programs i = .ask q next)
    (hq : q.isCommand = true) : Step c (.turn i) ((c.serve i q).resume i (next (c.server.answer q).1))
  | bring {i : ι} {q : Request} {next : Outcome q.Reply → Program α} (h : c.programs i = .ask q next)
    (hq : q.isCommand = false) {o : Outcome q.Reply} (ho : q.MayBring o) : Step c (.turn i) (c.resume i (next o))
  /-- A command fails and has no effect. -/
  | fail {i : ι} {q : Request} {next : Outcome q.Reply → Program α} (h : c.programs i = .ask q next)
    (hq : q.isCommand = true) (f : Failure) : Step c (.turn i) (c.resume i (next (.failed f)))
  /-- A command takes effect and seems to have failed. -/
  | lose {i : ι} {q : Request} {next : Outcome q.Reply → Program α} (h : c.programs i = .ask q next)
    (hq : q.isCommand = true) (f : Failure) :
    Step c (.turn i) ({ c with server := (c.server.answer q).2 }.resume i (next (.failed f)))
  | tick (seconds : Nat) : Step c (.tick seconds) { c with server := c.server.advance seconds }
  | vanish (key : String) (noticed : Bool) :
    Step c (.vanish key noticed) { c with server := c.server.vanish key noticed }

/-- A client goes on. The server carries out its commands, and whatever is no command fails with `f`. -/
def turn (f : Failure) (c : Crowd ι α) (i : ι) : Crowd ι α :=
  match c.programs i with
  | .done _ => c
  | .note _ next => c.resume i next
  | .ask q next =>
    if q.isCommand then (c.serve i q).resume i (next (c.server.answer q).1) else c.resume i (next (q.failWith f))

/-- The clients go on one after the other, in this order. -/
def turns (f : Failure) (c : Crowd ι α) (order : List ι) : Crowd ι α := order.foldl (turn f) c

/-- A turn is a step, unless the client is done. -/
theorem turn_cases (f : Failure) (c : Crowd ι α) (i : ι) : c.turn f i = c ∨ Step c (.turn i) (c.turn f i) := by
  unfold turn
  split
  · exact .inl rfl
  · exact .inr (.note ‹_›)
  · rename_i q next hprogram
    cases hq : q.isCommand with
    | true => exact .inr (.answer hprogram hq)
    | false => exact .inr (.bring hprogram hq (q.mayBring_failWith f))

/-- No turn makes a key go away. -/
theorem isSome_find?_turn {f : Failure} {c : Crowd ι α} {key : String} (h : (c.server.find? key).isSome) (i : ι) :
    ((c.turn f i).server.find? key).isSome := by
  unfold turn
  split
  · exact h
  · exact h
  · split
    · exact Server.isSome_find?_answer h
    · exact h

/-- One crowd comes of another. -/
def Reaches : Crowd ι α → Crowd ι α → Prop := Relation.ReflTransGen fun c c' => ∃ h, Step c h c'

namespace Reaches

variable {c c' : Crowd ι α} {i : ι}

theorem refl (c : Crowd ι α) : Reaches c c := Relation.ReflTransGen.refl

theorem note {line : LogLine} {next : Program α} (hreaches : Reaches c c') (h : c'.programs i = .note line next) :
    Reaches c (c'.resume i next) := hreaches.tail ⟨_, .note h⟩

theorem answer {q : Request} {next : Outcome q.Reply → Program α} (hreaches : Reaches c c')
    (h : c'.programs i = .ask q next) (hq : q.isCommand = true) :
    Reaches c ((c'.serve i q).resume i (next (c'.server.answer q).1)) := hreaches.tail ⟨_, .answer h hq⟩

theorem tick (hreaches : Reaches c c') (seconds : Nat) :
    Reaches c { c' with server := c'.server.advance seconds } := hreaches.tail ⟨_, .tick seconds⟩

end Reaches

end Crowd

end ScanAdapter
