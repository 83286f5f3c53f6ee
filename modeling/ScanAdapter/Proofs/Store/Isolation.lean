import ScanAdapter.Proofs.Store.Crowd
import ScanAdapter.Proofs.Store.Namespaces
import ScanAdapter.Proofs.Store.Operation

/-!
# Stores that leave each other alone

Clients of two stores take turns on one server, request by request. Where no key is a key of both stores, what the
clients of the one do makes no difference to the other: take their moves out of a run, and all the rest goes as it went
(`Crowd.agreeFor_playAll`). A command of the other store touches no key of this one, and a command of this one comes
to the same on servers that agree on the keys of this one; both facts are carried along the moves.
-/
namespace ScanAdapter

/-! ## Servers that agree on some keys -/

/-- The key that a command is about. -/
def Request.key? : Request → Option String
  | setIfAbsent key _ _ | read key | watch key | readWatched key | commit key _ _ _ => some key
  | currentTime | startTimer _ | stopTimer | scan => none

/-- Nothing but a command is about a key. -/
theorem Request.key?_eq_none {q : Request} (hq : q.isCommand = false) : q.key? = none := by
  cases q with
  | setIfAbsent _ _ _ | read _ | watch _ | readWatched _ | commit _ _ _ _ => cases hq
  | currentTime | startTimer _ | stopTimer | scan => rfl

namespace Server

/-- Two servers have the same under some of their keys, and have seen the same changes of them. -/
structure AgreeOn (keys : String → Prop) (s t : Server) : Prop where
  now : s.now = t.now
  find? : ∀ key, keys key → s.find? key = t.find? key
  mark : ∀ key, keys key → s.mark key = t.mark key

namespace AgreeOn

variable {keys : String → Prop} {s t u : Server} {key : String}

theorem refl (s : Server) : s.AgreeOn keys s := ⟨rfl, fun _ _ => rfl, fun _ _ => rfl⟩

theorem trans (h : s.AgreeOn keys t) (h' : t.AgreeOn keys u) : s.AgreeOn keys u where
  now := h.now.trans h'.now
  find? key hkey := (h.find? key hkey).trans (h'.find? key hkey)
  mark key hkey := (h.mark key hkey).trans (h'.mark key hkey)

theorem symm (h : s.AgreeOn keys t) : t.AgreeOn keys s where
  now := h.now.symm
  find? key hkey := (h.find? key hkey).symm
  mark key hkey := (h.mark key hkey).symm

theorem advance (h : s.AgreeOn keys t) (seconds : Nat) : (s.advance seconds).AgreeOn keys (t.advance seconds) where
  now := congrArg (· + (seconds : Int)) h.now
  find? key hkey := by rw [find?_advance, find?_advance, h.find? key hkey, h.now]
  mark := h.mark

theorem put (h : s.AgreeOn keys t) (key : String) (e : Entry) : (s.put key e).AgreeOn keys (t.put key e) where
  now := h.now
  find? other hother := by
    by_cases heq : other = key
    · rw [heq, find?_put_self, find?_put_self, h.now]
    · rw [find?_put_of_ne _ _ heq, find?_put_of_ne _ _ heq, h.find? other hother]
  mark other hother := by
    by_cases heq : other = key
    · rw [← heq, mark_put_self, mark_put_self, h.mark other hother]
    · rw [mark_put_of_ne _ _ heq, mark_put_of_ne _ _ heq, h.mark other hother]

/-- To write another key is to leave these keys as they are. -/
theorem put_other (s : Server) (e : Entry) (hkey : ¬ keys key) : s.AgreeOn keys (s.put key e) := by
  have hne : ∀ other, keys other → other ≠ key := by
    rintro other hother rfl
    exact hkey hother
  exact ⟨rfl, fun other hother => (find?_put_of_ne s e (hne other hother)).symm,
    fun other hother => (mark_put_of_ne s e (hne other hother)).symm⟩

theorem textFor (h : s.AgreeOn keys t) (text : String) (seconds : Int) :
    s.textFor text seconds = t.textFor text seconds := by
  rw [Server.textFor, Server.textFor, h.now]

/-- A command on one of these keys is answered alike, and leaves servers that agree. -/
theorem answer {q : Request} (h : s.AgreeOn keys t) (hq : ∀ key ∈ q.key?, keys key) :
    (s.answer q).1 = (t.answer q).1 ∧ (s.answer q).2.AgreeOn keys (t.answer q).2 := by
  cases q with
  | setIfAbsent key text seconds =>
    have hfind := h.find? key (hq key rfl)
    have hlife := expiryFault?_congr h.now seconds
    rw [Server.answer, Server.answer, setIfAbsent, setIfAbsent, hlife, hfind]
    cases t.expiryFault? seconds with
    | some fault => exact ⟨rfl, h⟩
    | none =>
      cases t.find? key with
      | some e => exact ⟨rfl, h⟩
      | none =>
        dsimp only
        rw [h.textFor]
        exact ⟨rfl, h.put _ _⟩
  | read key | readWatched key =>
    rw [Server.answer, Server.answer, read_congr (h.find? key (hq key rfl))]
    exact ⟨rfl, h⟩
  | watch key =>
    rw [Server.answer, Server.answer, h.mark key (hq key rfl)]
    exact ⟨rfl, h⟩
  | commit key mark text seconds =>
    have hfind := h.find? key (hq key rfl)
    have hlife := expiryFault?_congr h.now seconds
    rw [Server.answer, Server.answer, commit, commit, hlife, hfind, h.mark key (hq key rfl)]
    by_cases hmark : t.mark key ≠ mark
    · rw [if_pos hmark, if_pos hmark]
      exact ⟨rfl, h⟩
    · rw [if_neg hmark, if_neg hmark]
      cases t.expiryFault? seconds with
      | some fault => exact ⟨rfl, h⟩
      | none =>
        cases t.find? key with
        | none => exact ⟨rfl, h⟩
        | some e =>
          dsimp only
          rw [h.textFor]
          exact ⟨rfl, h.put _ _⟩
  | currentTime | startTimer _ | stopTimer | scan => exact ⟨rfl, h⟩

/-- A command on another key leaves these keys as they are. -/
theorem answer_other {q : Request} (s : Server) (hq : ∀ key ∈ q.key?, ¬ keys key) :
    s.AgreeOn keys (s.answer q).2 := by
  cases q with
  | setIfAbsent key text seconds =>
    rcases s.answer_setIfAbsent_cases key text seconds with hsame | ⟨hput, -⟩
    · rw [hsame]
      exact refl s
    · rw [hput]
      exact put_other s _ (hq key rfl)
  | commit key mark text seconds =>
    rcases s.answer_commit_cases key mark text seconds with hsame | ⟨hput, -⟩
    · rw [hsame]
      exact refl s
    · rw [hput]
      exact put_other s _ (hq key rfl)
  | read _ | watch _ | readWatched _ | currentTime | startTimer _ | stopTimer | scan => exact refl s

end AgreeOn

end Server

/-! ## Clients of a store -/

namespace JobStore

/-- The key is one of the store's. -/
def Owns (s : JobStore) (key : String) : Prop := ∃ id, s.keyFor id = key

/-- A program makes calls of the store, one after the other, each call as the earlier ones have come out. -/
inductive Client (s : JobStore) {α : Type} : Program α → Prop
  | done (o : Outcome α) : Client s (.done o)
  | call (call : Call) (id : String) (timeout : Option Number) {next : Outcome Answer → Program α}
    (h : ∀ o, Client s (next o)) : Client s ((Caller.program ⟨s, call, timeout⟩ (call.on id)).andThen next)

/-- A program may ask for the keys of the store and for timers, and for nothing else. -/
def confines (s : JobStore) : Protocol Unit :=
  ⟨fun _ q => (q.isCommand = true ∨ q.isTimer = true) ∧ ∀ key ∈ q.key?, s.Owns key, fun _ _ _ _ => True⟩

/-- Whatever is answered, the program keeps to the keys of the store. -/
def Confines (s : JobStore) {α : Type} (p : Program α) : Prop := p.Follows s.confines (fun _ _ => True) ()

variable {s : JobStore} {α : Type}

/-- What a call may ask is confined to the store. -/
theorem confines_of_may {c : Caller} {id : String} {k : Progress} {q : Request} (h : c.May id k q) :
    c.store.confines.may () q := by
  refine ⟨Caller.isCommand_or_isTimer h, ?_⟩
  cases hq : q.isCommand with
  | true =>
    obtain ⟨mark, held, crossed, rfl⟩ := Caller.active_of_isCommand h hq
    cases q with
    | currentTime | startTimer _ | stopTimer | scan => cases hq
    | setIfAbsent _ _ _ | read _ | watch _ | readWatched _ | commit _ _ _ _ =>
      rintro key ⟨⟩
      exact ⟨id, h.1.symm⟩
  | false =>
    rw [Request.key?_eq_none hq]
    nofun

/-- A client keeps to the keys of its store. -/
theorem Client.confined {p : Program α} (h : s.Client p) : s.Confines p := by
  induction h with
  | done o => trivial
  | call call id timeout hnext ih =>
    let anyhow : Progress → Unit → Prop := fun _ _ => True
    have hcall := (Caller.follows_program ⟨s, call, timeout⟩ id).simulate (fun _ hmay => confines_of_may hmay)
      (fun _ _ _ => ⟨(), trivial, trivial⟩) (show anyhow .begun () from trivial)
    exact hcall.andThen fun _ o _ => ih o

end JobStore

/-! ## Moves -/

/-- How a command fares. -/
inductive Fate
  | carriedOut
  /-- It fails and has no effect. -/
  | failed (f : Failure)
  /-- It takes effect and seems to have failed. -/
  | lost (f : Failure)
  deriving Repr

/-- What comes of a request, by its fate. Nothing can happen to a timer. -/
def Server.fare (s : Server) (q : Request) (fate : Fate) : Outcome q.Reply × Server :=
  match q.isCommand, fate with
  | true, .failed f => (.failed f, s)
  | true, .lost f => (.failed f, (s.answer q).2)
  | _, _ => s.answer q

/-- The server always answers, unless a command fails. -/
theorem Server.mayBring_fare {q : Request} (s : Server) (hq : q.isCommand = true ∨ q.isTimer = true) (fate : Fate) :
    q.MayBring (s.fare q fate).1 := by
  unfold fare
  cases hcommand : q.isCommand with
  | true =>
    have htimer := Request.isTimer_of_isCommand hcommand
    cases fate with
    | carriedOut => exact s.mayBring_answer hcommand
    | failed f | lost f => exact htimer
  | false =>
    cases q with
    | startTimer _ | stopTimer => trivial
    | currentTime | scan => exact absurd hq (by decide)
    | setIfAbsent _ _ _ | read _ | watch _ | readWatched _ | commit _ _ _ _ => cases hcommand

namespace Server.AgreeOn

variable {keys : String → Prop} {s t : Server} {q : Request}

theorem fare (h : s.AgreeOn keys t) (hq : ∀ key ∈ q.key?, keys key) (fate : Fate) :
    (s.fare q fate).1 = (t.fare q fate).1 ∧ (s.fare q fate).2.AgreeOn keys (t.fare q fate).2 := by
  unfold Server.fare
  cases q.isCommand with
  | false => exact h.answer hq
  | true =>
    cases fate with
    | carriedOut => exact h.answer hq
    | failed f => exact ⟨rfl, h⟩
    | lost f => exact ⟨rfl, (h.answer hq).2⟩

theorem fare_other (s : Server) (hq : ∀ key ∈ q.key?, ¬ keys key) (fate : Fate) :
    s.AgreeOn keys (s.fare q fate).2 := by
  unfold Server.fare
  cases q.isCommand with
  | false => exact answer_other s hq
  | true =>
    cases fate with
    | carriedOut => exact answer_other s hq
    | failed f => exact refl s
    | lost f => exact answer_other s hq

end Server.AgreeOn

/-- A server and what its clients are about to do. -/
structure Shared (ι α : Type) where
  server : Server
  programs : ι → Program α

/-- A client goes on, or time passes. -/
inductive Move (ι : Type)
  | turn (i : ι) (fate : Fate)
  | tick (seconds : Nat)
  deriving Repr

/-- The move is left when all clients but `mine` stay away. -/
def Move.remains {ι : Type} (mine : ι → Bool) : Move ι → Bool
  | turn i _ => mine i
  | tick _ => true

namespace Shared

variable {ι α : Type} {mine : ι → Bool} {own other : JobStore} {keys : String → Prop} {c d : Shared ι α} {i j : ι}
variable {fate : Fate} {server server' : Server} {p : Program α}

/-- Some of the clients are as far in the one as in the other, and have the same under their keys. -/
structure AgreeFor (mine : ι → Bool) (keys : String → Prop) (c d : Shared ι α) : Prop where
  server : c.server.AgreeOn keys d.server
  programs : ∀ i, mine i = true → c.programs i = d.programs i

theorem AgreeFor.refl (c : Shared ι α) : AgreeFor mine keys c c := ⟨.refl _, fun _ _ => rfl⟩

/-- Each client keeps to the keys of its store. -/
def Keeps (mine : ι → Bool) (own other : JobStore) (c : Shared ι α) : Prop :=
  ∀ i, (if mine i then own else other).Confines (c.programs i)

/-- What a client asks for is a key of its store, and it keeps to them after that. -/
theorem Keeps.asks {q : Request} {next : Outcome q.Reply → Program α} (h : c.Keeps mine own other)
    (hprogram : c.programs i = .ask q next) (fate : Fate) :
    (∀ key ∈ q.key?, (if mine i then own else other).Owns key) ∧
      (if mine i then own else other).Confines (next (c.server.fare q fate).1) := by
  have hi := h i
  rw [hprogram] at hi
  obtain ⟨⟨hq, hkey⟩, hnext⟩ := hi
  obtain ⟨_, -, hthen⟩ := hnext _ (c.server.mayBring_fare hq fate)
  exact ⟨hkey, hthen⟩

variable [DecidableEq ι]

/-- A client goes on with a program. -/
def resume (c : Shared ι α) (i : ι) (server : Server) (p : Program α) : Shared ι α :=
  ⟨server, Function.update c.programs i p⟩

theorem resume_self : (c.resume i server p).programs i = p := Function.update_self _ _ _

theorem resume_of_ne (h : j ≠ i) : (c.resume i server p).programs j = c.programs j := Function.update_of_ne h _ _

def play (c : Shared ι α) : Move ι → Shared ι α
  | .tick seconds => { c with server := c.server.advance seconds }
  | .turn i fate =>
    match c.programs i with
    | .done _ => c
    | .note _ next => c.resume i c.server next
    | .ask q next => c.resume i (c.server.fare q fate).2 (next (c.server.fare q fate).1)

def playAll (c : Shared ι α) (moves : List (Move ι)) : Shared ι α := moves.foldl play c

theorem play_done {o : Outcome α} (h : c.programs i = .done o) : c.play (.turn i fate) = c := by rw [play, h]

theorem play_note {line : LogLine} {next : Program α} (h : c.programs i = .note line next) :
    c.play (.turn i fate) = c.resume i c.server next := by rw [play, h]

theorem play_ask {q : Request} {next : Outcome q.Reply → Program α} (h : c.programs i = .ask q next) :
    c.play (.turn i fate) = c.resume i (c.server.fare q fate).2 (next (c.server.fare q fate).1) := by rw [play, h]

/-! ### One move -/

/-- A client keeps to the keys of its store as it goes on. -/
theorem Keeps.resume (h : c.Keeps mine own other) (hp : (if mine i then own else other).Confines p) :
    (c.resume i server p).Keeps mine own other := by
  intro j
  by_cases hj : j = i
  · rw [hj, resume_self]
    exact hp
  · rw [resume_of_ne hj]
    exact h j

theorem Keeps.play (h : c.Keeps mine own other) (m : Move ι) : (c.play m).Keeps mine own other := by
  cases m with
  | tick seconds => exact h
  | turn i fate =>
    cases hprogram : c.programs i with
    | done o =>
      rw [play_done hprogram]
      exact h
    | note line next =>
      have hi := h i
      rw [hprogram] at hi
      rw [play_note hprogram]
      exact h.resume hi
    | ask q next =>
      rw [play_ask hprogram]
      exact h.resume (h.asks hprogram fate).2

namespace AgreeFor

/-- Another client goes on, and leaves the keys as they are. -/
theorem resume_other (h : AgreeFor mine keys c d) (hi : mine i = false) (hserver : c.server.AgreeOn keys server) :
    AgreeFor mine keys (c.resume i server p) d where
  server := hserver.symm.trans h.server
  programs j hj := by
    have hne : j ≠ i := by
      rintro rfl
      rw [hi] at hj
      cases hj
    rw [resume_of_ne hne]
    exact h.programs j hj

/-- The same client goes on with the same program. -/
theorem resume (h : AgreeFor mine keys c d) (hserver : server.AgreeOn keys server') :
    AgreeFor mine keys (c.resume i server p) (d.resume i server' p) where
  server := hserver
  programs j hj := by
    by_cases heq : j = i
    · rw [heq, resume_self, resume_self]
    · rw [resume_of_ne heq, resume_of_ne heq]
      exact h.programs j hj

/-- A move of another client makes no difference. -/
theorem play_other (h : AgreeFor mine own.Owns c d) (hc : c.Keeps mine own other)
    (hapart : ∀ key, other.Owns key → ¬ own.Owns key) (hi : mine i = false) :
    AgreeFor mine own.Owns (c.play (.turn i fate)) d := by
  cases hprogram : c.programs i with
  | done o =>
    rw [play_done hprogram]
    exact h
  | note line next =>
    rw [play_note hprogram]
    exact h.resume_other hi (.refl _)
  | ask q next =>
    have hkeys := (hc.asks hprogram fate).1
    rw [hi, if_neg Bool.false_ne_true] at hkeys
    rw [play_ask hprogram]
    exact h.resume_other hi (.fare_other _ (fun key hkey => hapart key (hkeys key hkey)) fate)

/-- A move that remains is made alike in both. -/
theorem play (h : AgreeFor mine own.Owns c d) (hc : c.Keeps mine own other) {m : Move ι} (hm : m.remains mine = true) :
    AgreeFor mine own.Owns (c.play m) (d.play m) := by
  cases m with
  | tick seconds => exact ⟨h.server.advance seconds, h.programs⟩
  | turn i fate =>
    have hsame := h.programs i hm
    cases hprogram : c.programs i with
    | done o =>
      rw [play_done hprogram, play_done (hsame ▸ hprogram)]
      exact h
    | note line next =>
      rw [play_note hprogram, play_note (hsame ▸ hprogram)]
      exact h.resume h.server
    | ask q next =>
      have hkeys := (hc.asks hprogram fate).1
      rw [if_pos (show mine i = true from hm)] at hkeys
      obtain ⟨hreply, hserver⟩ := h.server.fare hkeys fate
      rw [play_ask hprogram, play_ask (hsame ▸ hprogram), hreply]
      exact h.resume hserver

/-! ### Runs -/

/-- **The moves of the other clients make no difference.** What remains without them goes as it went with them. -/
theorem playAll (h : AgreeFor mine own.Owns c d) (hc : c.Keeps mine own other)
    (hapart : ∀ key, other.Owns key → ¬ own.Owns key) (moves : List (Move ι)) :
    AgreeFor mine own.Owns (c.playAll moves) (d.playAll (moves.filter (Move.remains mine))) := by
  induction moves generalizing c d with
  | nil => exact h
  | cons m moves ih =>
    cases hm : m.remains mine with
    | true =>
      rw [List.filter_cons_of_pos hm]
      exact ih (h.play hc hm) (hc.play m)
    | false =>
      rw [List.filter_cons_of_neg (by rw [hm]; exact Bool.false_ne_true)]
      cases m with
      | tick seconds => cases hm
      | turn i fate => exact ih (h.play_other hc hapart hm) (hc.play _)

end AgreeFor

end Shared

/-! ## Isolation -/

namespace JobStore

variable {s t : JobStore}

/-- Stores of unrelated namespaces have no key in common. -/
theorem not_owns_of_not_encloses (hne : s.storeNamespace ≠ t.storeNamespace)
    (h : ¬ Encloses s.storeNamespace t.storeNamespace) (h' : ¬ Encloses t.storeNamespace s.storeNamespace) (key : String)
    (hkey : s.Owns key) : ¬ t.Owns key := by
  rintro ⟨id', hid'⟩
  obtain ⟨id, hid⟩ := hkey
  exact ((exists_keyFor_eq_iff hne).1 ⟨id, id', hid.trans hid'.symm⟩).elim h h'

/-- Clients of two stores of unrelated namespaces: those of `t` see nothing of those of `s`. -/
theorem agreeFor_of_clients {ι α : Type} [DecidableEq ι] {mine : ι → Bool} {c : Shared ι α}
    (hne : s.storeNamespace ≠ t.storeNamespace) (h : ¬ Encloses s.storeNamespace t.storeNamespace)
    (h' : ¬ Encloses t.storeNamespace s.storeNamespace)
    (hclients : ∀ i, (if mine i then t else s).Client (c.programs i)) (moves : List (Move ι)) :
    Shared.AgreeFor mine t.Owns (c.playAll moves) (c.playAll (moves.filter (Move.remains mine))) :=
  (Shared.AgreeFor.refl c).playAll (fun i => (hclients i).confined) (not_owns_of_not_encloses hne h h') moves

/-- **Isolation of namespaces and identities.** Stores of one namespace have a key in common for the same identity
only, and different namespaces have a key in common exactly if one encloses the other. If neither does, and
clients of the two stores share a server, then those of `t` come to the same, and the keys of `t` hold the same for the
same time, as if the clients of `s` had stayed away; moves of the clients of `s` alone leave the keys of `t` as they
were. -/
theorem isolated (s t : JobStore) :
    (s.storeNamespace = t.storeNamespace → ∀ id id', s.keyFor id = t.keyFor id' → id = id') ∧
    (s.storeNamespace ≠ t.storeNamespace → ((∃ id id', s.keyFor id = t.keyFor id') ↔
      Encloses s.storeNamespace t.storeNamespace ∨ Encloses t.storeNamespace s.storeNamespace)) ∧
    (s.storeNamespace ≠ t.storeNamespace → ¬ Encloses s.storeNamespace t.storeNamespace →
      ¬ Encloses t.storeNamespace s.storeNamespace →
      ∀ (ι α : Type) [DecidableEq ι] (mine : ι → Bool) (c : Shared ι α) (moves : List (Move ι)),
        (∀ i, (if mine i then t else s).Client (c.programs i)) →
        let shared := c.playAll moves
        let alone := c.playAll (moves.filter (Move.remains mine))
        (∀ i, mine i = true → shared.programs i = alone.programs i) ∧
          (∀ id, shared.server.find? (t.keyFor id) = alone.server.find? (t.keyFor id)) ∧
          ((∀ m ∈ moves, m.remains mine = false) → ∀ id,
            shared.server.find? (t.keyFor id) = c.server.find? (t.keyFor id))) := by
  refine ⟨fun hspace _ _ => id_eq_of_keyFor_eq hspace, exists_keyFor_eq_iff, ?_⟩
  intro hne h h' ι α _ mine c moves hclients shared alone
  have hagree : Shared.AgreeFor mine t.Owns shared alone := agreeFor_of_clients hne h h' hclients moves
  refine ⟨hagree.programs, fun id => hagree.server.find? _ ⟨id, rfl⟩, fun hmoves id => ?_⟩
  have halone : alone = c := by
    change c.playAll (moves.filter (Move.remains mine)) = c
    rw [List.filter_eq_nil_iff.2 fun m hm => by rw [hmoves m hm]; exact Bool.false_ne_true]
    rfl
  rw [← halone]
  exact hagree.server.find? _ ⟨id, rfl⟩

/-- Two clients create a job of one identity, each in a store of its own. -/
def namesakes (store : Bool → JobStore) : Shared Bool Answer where
  server := Server.empty
  programs b := (Caller.program ⟨store b, .create ⟨"job-1", .queued, none, none⟩, none⟩ "job-1").andThen .done

theorem isolated_namesakes :
    let store : Bool → JobStore := fun b => { sampleStore with storeNamespace := if b then "harbor" else "gitlab" }
    let moves : List (Move Bool) :=
      [.turn false .carriedOut, .turn true .carriedOut, .turn false .carriedOut, .turn true .carriedOut]
    let shared := (namesakes store).playAll moves
    shared.server.entries.length = 2 ∧ shared.programs true = .done (.value .created) := by
  intro store moves shared
  have hclients : ∀ b : Bool, (if b = true then store true else store false).Client ((namesakes store).programs b) := by
    intro b
    cases b with
    | true | false => exact .call _ "job-1" none fun o => .done o
  obtain ⟨hprograms, -⟩ := (isolated (store false) (store true)).2.2 (by decide) (by decide) (by decide) Bool Answer
    (fun b => b) (namesakes store) moves hclients
  exact ⟨rfl, (hprograms true rfl).trans rfl⟩

end JobStore

end ScanAdapter
