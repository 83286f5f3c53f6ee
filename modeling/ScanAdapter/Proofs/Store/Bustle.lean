import ScanAdapter.Proofs.Store.Crowd
import ScanAdapter.Proofs.Store.Operation

/-!
# An update in a bustle

Anything may happen to the server before each request of a client, and the client itself changes nothing until its
update is written. So there is one row of states that the server goes through (`Bustle.state`), and interference is
a matter of this row: an update gives up only after the key was changed once for each of its attempts
(`Bustle.changes_of_conflict`), and where nothing happens to a key that holds a job, the first attempt writes it
(`Bustle.updated_of_quiet`).
-/
namespace ScanAdapter

/-- A server, and how many requests one client has made. -/
structure Bustle where
  server : Server
  asked : Nat

namespace Bustle

variable {α : Type} (happens : Nat → Server → Server) (server : Server)

/-- Something happens, and then the request is answered. -/
def handle (q : Request) (w : Bustle) : Outcome q.Reply × Bustle :=
  let (reply, server) := (happens w.asked w.server).answer q
  (reply, ⟨server, w.asked + 1⟩)

def run (p : Program α) : Outcome α := (p.run (handle happens) (fun _ w => w) ⟨server, 0⟩).1

/-- The server after so many requests that have changed nothing. -/
def state : Nat → Server
  | 0 => server
  | n + 1 => happens n (state n)

/-- So many times, one after the other and the last by the request `n`, the key was changed. -/
inductive Changes (states : Nat → Server) (key : String) : (times n : Nat) → Prop
  | never (n : Nat) : Changes states key 0 n
  | again {times since changed n : Nat} (h : Changes states key times since) (hsince : since ≤ changed)
    (hchanged : (states changed).mark key ≠ (states since).mark key) (hn : changed ≤ n) :
    Changes states key (times + 1) n

theorem Changes.mono {states : Nat → Server} {key : String} {times n n' : Nat} (h : Changes states key times n)
    (hle : n ≤ n') : Changes states key times n' := by
  cases h with
  | never => exact .never n'
  | again h hsince hchanged hn => exact .again h hsince hchanged (hn.trans hle)

/-- Nothing that happens touches the key, and the clock does not come too far for a lifetime. -/
structure Quiet (key : String) (seconds : Int) : Prop where
  find? : ∀ n, (state happens server n).find? key = server.find? key
  mark : ∀ n, (state happens server n).mark key = server.mark key
  clock : ∀ n, Server.Tells (state happens server n).now seconds

variable {happens server} {store : JobStore} {u : Update} {timeout : Option Number} {id : String} {w : Bustle}

theorem mayBring_handle {q : Request} (hq : q.isCommand = true ∨ q.isTimer = true) :
    q.MayBring (handle happens q w).1 := by
  rcases hq with hq | hq
  · exact Server.mayBring_answer _ hq
  · cases q with
    | startTimer _ | stopTimer => trivial
    | _ => cases hq

/-- An update ends as an update does, with what is known by then. -/
theorem ends_run {I : Progress → Bustle → Prop} (hstart : I .begun ⟨server, 0⟩)
    (hstep : ∀ {k w q}, I k w → Caller.May ⟨store, .update u, timeout⟩ id k q →
      I (k.after q (handle happens q w).1) (handle happens q w).2) :
    ∃ k w, Caller.Ends ⟨store, .update u, timeout⟩ id k ((run happens server (store.perform u id timeout)).map .updated) ∧
      I k w := by
  have hfollows := Program.Follows.of_map (p := store.perform u id timeout)
    (Caller.follows_program ⟨store, .update u, timeout⟩ id)
  have hkeeps : ∀ {k w q}, I k w → Caller.May ⟨store, .update u, timeout⟩ id k q →
      q.MayBring (handle happens q w).1 ∧
        ∀ k', k' = k.after q (handle happens q w).1 → I k' (handle happens q w).2 := fun h hmay =>
    ⟨mayBring_handle (Caller.isCommand_or_isTimer hmay), fun _ hk' => hk' ▸ hstep h hmay⟩
  obtain ⟨k, hends, hk⟩ := hfollows.run hstart (fun _ h => h) hkeeps
  exact ⟨k, _, hends, hk⟩

/-! ## Answers to an update -/

/-- What an update that goes on knows after an answer, and the server after it. -/
inductive Learns (key : String) (seconds : Int) (mark : Option Nat) (held : Option String) (crossed : Nat)
    (s : Server) : Progress → Server → Prop
  | nothing : Learns key seconds mark held crossed s (.active mark held crossed) s
  | watched : Learns key seconds mark held crossed s (.active (some (mark.getD (s.mark key))) none crossed) s
  | found {text : String} (h : s.read key = .ok (some text)) :
    Learns key seconds mark held crossed s (.active mark (some text) crossed) s
  | missing (h : s.read key = .ok none) : Learns key seconds mark held crossed s .absent s
  | unreadable {fault : Fault} (h : s.read key = .error fault) :
    Learns key seconds mark held crossed s (.broken (.fault fault)) s
  | crossed {m : Nat} (hmark : mark = some m) (h : s.mark key ≠ m) :
    Learns key seconds mark held crossed s (.active none none (crossed + 1)) s
  | rejected {m : Nat} {text : String} {fault : Fault} (hmark : mark = some m)
    (h : s.commit key m text seconds = (.error fault, s)) :
    Learns key seconds mark held crossed s (.broken (.fault fault)) s
  | gone {m : Nat} {text : String} (hmark : mark = some m) (h : s.commit key m text seconds = (.ok false, s)) :
    Learns key seconds mark held crossed s .gone s
  | written {text : String} : Learns key seconds mark held crossed s (.written held) (s.put key (s.textFor text seconds))

/-- All that the server can tell an update. -/
theorem learns_answer {mark : Option Nat} {held : Option String} {crossed : Nat} {q : Request} (s : Server)
    (hmay : Caller.May ⟨store, .update u, timeout⟩ id (.active mark held crossed) q) :
    Learns (store.keyFor id) store.ttl.wholeSeconds mark held crossed s
      (Progress.after (.active mark held crossed) q (s.answer q).1) (s.answer q).2 := by
  cases q with
  | currentTime | scan => cases hmay
  | startTimer _ | stopTimer => exact .nothing
  | setIfAbsent key text seconds =>
    obtain ⟨-, -, job, hcall, -⟩ := hmay
    cases hcall
  | read key =>
    obtain ⟨-, hcall⟩ := hmay
    cases hcall
  | watch key =>
    obtain ⟨rfl, -⟩ := hmay
    exact .watched
  | readWatched key =>
    obtain ⟨rfl, -⟩ := hmay
    cases hread : s.read (store.keyFor id) with
    | error fault =>
      rw [Server.answer_readWatched_error hread]
      rcases Progress.afterFailure_cases mark crossed (.fault fault) with ⟨hcrossing, -⟩ | ⟨-, hbroken⟩
      · exact absurd hcrossing (Server.not_isCrossing_of_read hread)
      · change Learns _ _ _ _ _ _ (Progress.afterFailure mark crossed (.fault fault)) _
        rw [hbroken]
        exact .unreadable hread
    | ok held' =>
      rw [Server.answer_readWatched hread]
      cases held' with
      | none => exact .missing hread
      | some text => exact .found hread
  | commit key m text seconds =>
    obtain ⟨rfl, rfl, rfl, -⟩ := hmay
    rcases s.commit_cases (store.keyFor id) m text store.ttl.wholeSeconds with
      ⟨fault, hcommit⟩ | hcommit | ⟨hcommit, -⟩
    · rw [Server.answer_commit hcommit]
      change Learns _ _ _ _ _ _ (Progress.afterFailure none crossed (.fault fault)) _
      rcases Progress.afterFailure_cases none crossed (.fault fault) with ⟨hcrossing, hagain⟩ | ⟨-, hbroken⟩
      · rw [hagain]
        exact .crossed rfl (Server.mark_ne_of_commit hcommit hcrossing)
      · rw [hbroken]
        exact .rejected rfl hcommit
    · rw [Server.answer_commit hcommit]
      exact .gone rfl hcommit
    · rw [Server.answer_commit hcommit]
      exact .written

/-! ## Giving up -/

/-- A call that goes on has changed nothing, and was crossed no more often than the key was changed before the mark from
which on it is watched. Other faults than those of the server do not occur. -/
def Shaken (happens : Nat → Server → Server) (server : Server) (key : String) : Progress → Bustle → Prop
  | .active mark _ crossed, w => w.server = state happens server w.asked ∧
    ∃ since ≤ w.asked, Changes (state happens server) key crossed since ∧
      ∀ m ∈ mark, (state happens server since).mark key = m
  | .broken f, _ => ∃ fault, f = .fault fault
  | _, _ => True

theorem Shaken.handle {k : Progress} {q : Request} (h : Shaken happens server (store.keyFor id) k w)
    (hmay : Caller.May ⟨store, .update u, timeout⟩ id k q) :
    Shaken happens server (store.keyFor id) (k.after q (Bustle.handle happens q w).1) (Bustle.handle happens q w).2 := by
  cases k with
  | absent | gone | taken | written _ => trivial
  | broken f => exact h
  | active mark held crossed =>
    obtain ⟨hserver, since, hle, hchanges, hmark⟩ := h
    have hnow : happens w.asked w.server = state happens server (w.asked + 1) := by rw [hserver, state]
    have hlearns := learns_answer (happens w.asked w.server) hmay
    change Shaken _ _ _ (Progress.after _ q ((happens w.asked w.server).answer q).1)
      ⟨((happens w.asked w.server).answer q).2, w.asked + 1⟩
    generalize Progress.after _ q ((happens w.asked w.server).answer q).1 = k' at hlearns
    generalize ((happens w.asked w.server).answer q).2 = after at hlearns
    cases hlearns with
    | missing _ | gone _ _ | written => trivial
    | unreadable _ | rejected _ _ => exact ⟨_, rfl⟩
    | nothing => exact ⟨hnow, since, Nat.le_succ_of_le hle, hchanges, hmark⟩
    | found _ => exact ⟨hnow, since, Nat.le_succ_of_le hle, hchanges, hmark⟩
    | watched =>
      cases mark with
      | some m => exact ⟨hnow, since, Nat.le_succ_of_le hle, hchanges, hmark⟩
      | none =>
        refine ⟨hnow, w.asked + 1, le_rfl, hchanges.mono (Nat.le_succ_of_le hle), ?_⟩
        rintro m ⟨⟩
        rw [← hnow]
        rfl
    | crossed hm hchanged =>
      subst hm
      rw [hnow, ← hmark _ rfl] at hchanged
      exact ⟨hnow, w.asked + 1, le_rfl, .again hchanges (Nat.le_succ_of_le hle) hchanged le_rfl, nofun⟩

/-- A fault of the server is told as an error of another kind. -/
theorem told_fault_ne_conflict {op : Operation} {timing : Option (Number × Nat)} {fault : Fault} {e : StoreError}
    (h : JobStore.told op id timing (.fault fault) = .store e) : e.kind ≠ .conflict := by
  have hclassify (limit : Option Number) (h : JobStore.classify op id limit (.fault fault) = .store e) :
      e.kind ≠ .conflict := by
    rcases fault with r | f | f | ⟨kind, message⟩ | ⟨kind, message⟩
    · cases h
    · cases h
    · cases h
      nofun
    · cases h
      nofun
    · cases kind with
      | timeLimit =>
        cases h
        nofun
      | _ => cases h
  cases timing with
  | none => exact hclassify none h
  | some timing => exact hclassify (some timing.1) h

/-- **An update that gives up has met with a change of the key at every attempt.** -/
theorem changes_of_conflict {e : StoreError}
    (h : run happens server (store.perform u id timeout) = .failed (.store e)) (hkind : e.kind = .conflict) :
    ∃ n, Changes (state happens server) (store.keyFor id) store.maxUpdateRetries.toNat n := by
  obtain ⟨k, w, hends, hshaken⟩ := @ends_run happens server store u timeout id
    (Shaken happens server (store.keyFor id)) ⟨rfl, 0, le_rfl, .never 0, nofun⟩ fun h hmay => h.handle hmay
  rw [h] at hends
  change Caller.Ends _ _ _ (.failed (.store e)) at hends
  generalize hfailure : Failure.store e = f at hends
  cases hends with
  | broken f timing =>
    obtain ⟨fault, rfl⟩ := hshaken
    exact absurd hkind (told_fault_ne_conflict hfailure.symm)
  | gaveUp _ =>
    obtain ⟨-, since, -, hchanges, -⟩ := hshaken
    exact ⟨since, hchanges⟩
  | taken hcall => cases hcall
  | unwritableJob hcall _ => cases hcall
  | late _ | corrupted _ | absent _ | gone _ | unwritableUpdate _ _ _ =>
    cases hfailure
    cases hkind

/-! ## Nothing happens -/

/-- A call that goes on has changed nothing and found nothing but the text, and a call that has ended has written over
it. -/
def Calm (happens : Nat → Server → Server) (server : Server) (key text : String) : Progress → Bustle → Prop
  | .active mark held crossed, w => w.server = state happens server w.asked ∧ crossed = 0 ∧
    (∀ m ∈ mark, server.mark key = m) ∧ ∀ t ∈ held, t = text
  | .written before, _ => ∀ t ∈ before, t = text
  | _, _ => False

theorem Calm.handle {text : String} {k : Progress} {q : Request} (h : Calm happens server (store.keyFor id) text k w)
    (hquiet : Quiet happens server (store.keyFor id) store.ttl.wholeSeconds)
    (hlife : 1 ≤ store.ttl.wholeSeconds) (hread : server.read (store.keyFor id) = .ok (some text))
    (hmay : Caller.May ⟨store, .update u, timeout⟩ id k q) :
    Calm happens server (store.keyFor id) text (k.after q (Bustle.handle happens q w).1)
      (Bustle.handle happens q w).2 := by
  cases k with
  | absent | gone | taken | broken _ => exact h
  | written before => exact h
  | active mark held crossed =>
    obtain ⟨hserver, hcrossed, hmark, hheld⟩ := h
    have hnow : happens w.asked w.server = state happens server (w.asked + 1) := by rw [hserver, state]
    have hfind := hquiet.find? (w.asked + 1)
    have hreadNow := (Server.read_congr hfind).trans hread
    have hmarkNow := hquiet.mark (w.asked + 1)
    have htaken := Server.expiryFault?_eq_none hlife (hquiet.clock (w.asked + 1))
    have hlearns := learns_answer (happens w.asked w.server) hmay
    change Calm _ _ _ _ (Progress.after _ q ((happens w.asked w.server).answer q).1)
      ⟨((happens w.asked w.server).answer q).2, w.asked + 1⟩
    generalize Progress.after _ q ((happens w.asked w.server).answer q).1 = k' at hlearns
    generalize ((happens w.asked w.server).answer q).2 = after at hlearns
    rw [hnow] at hlearns
    obtain ⟨entry, hentry⟩ := Server.find?_of_read_some hreadNow
    have hcommits {m : Nat} {text : String} (hm : mark = some m) :
        (state happens server (w.asked + 1)).commit (store.keyFor id) m text store.ttl.wholeSeconds =
          (.ok true, (state happens server (w.asked + 1)).put (store.keyFor id)
            ((state happens server (w.asked + 1)).textFor text store.ttl.wholeSeconds)) := by
      have heq := hmarkNow.trans (hmark m hm)
      rw [← heq]
      exact Server.commit_unchanged htaken hentry
    cases hlearns with
    | nothing => exact ⟨rfl, hcrossed, hmark, hheld⟩
    | watched =>
      refine ⟨rfl, hcrossed, ?_, nofun⟩
      rintro m ⟨⟩
      cases mark with
      | none => exact hmarkNow.symm
      | some m => exact hmark m rfl
    | found hfound =>
      refine ⟨rfl, hcrossed, hmark, ?_⟩
      rintro t ⟨⟩
      rw [hreadNow] at hfound
      cases hfound
      rfl
    | written => exact hheld
    | missing hmissing =>
      rw [hreadNow] at hmissing
      cases hmissing
    | unreadable hunreadable =>
      rw [hreadNow] at hunreadable
      cases hunreadable
    | crossed hm hchanged => exact absurd (hmarkNow.trans (hmark _ hm)) hchanged
    | rejected hm hrejected =>
      rw [hcommits hm] at hrejected
      cases hrejected
    | gone hm hgone =>
      rw [hcommits hm] at hgone
      cases hgone

/-- **Where nothing happens to a job, it is updated.** -/
theorem updated_of_quiet {text : String} {job : ScanJob} (hattempts : 1 ≤ store.maxUpdateRetries)
    (hlife : 1 ≤ store.ttl.wholeSeconds) (htime : store.HasTime timeout) (hu : u.fault? = none)
    (hquiet : Quiet happens server (store.keyFor id) store.ttl.wholeSeconds)
    (hread : server.read (store.keyFor id) = .ok (some text)) (hdecode : ScanJob.decode text = .ok job) :
    run happens server (store.perform u id timeout) = .value (u.apply job) := by
  obtain ⟨k, w, hends, hcalm⟩ := @ends_run happens server store u timeout id
    (Calm happens server (store.keyFor id) text) ⟨rfl, rfl, nofun, nofun⟩
    fun h hmay => h.handle hquiet hlife hread hmay
  generalize run happens server (store.perform u id timeout) = o at hends
  cases o with
  | silent => cases hends
  | value written =>
    change Caller.Ends _ _ _ (.value (.updated written)) at hends
    cases hends with
    | updated hcall hdecoded =>
      cases hcall
      obtain rfl := hcalm _ rfl
      rw [hdecode] at hdecoded
      cases hdecoded
      rfl
  | failed f =>
    exfalso
    change Caller.Ends _ _ _ (.failed f) at hends
    cases hends with
    | late h =>
      obtain ⟨hlimit, hzero⟩ := Option.filter_eq_some_iff.1 h
      exact Bool.false_ne_true ((htime _ hlimit).symm.trans hzero)
    | taken hcall => cases hcall
    | unwritableJob hcall _ => cases hcall
    | broken _ _ | absent _ | gone _ => exact hcalm
    | corrupted hcorrupted =>
      obtain rfl := hcalm.2.2.2 _ rfl
      rw [hdecode] at hcorrupted
      cases hcorrupted
    | unwritableUpdate hcall hdecoded hencode =>
      cases hcall
      obtain rfl := hcalm.2.2.2 _ rfl
      rw [hdecode] at hdecoded
      cases hdecoded
      rw [ScanJob.encode_of_fault? (u.fault?_apply hu (ScanJob.fault?_of_decode hdecode))] at hencode
      cases hencode
    | gaveUp _ =>
      have hnone : store.maxUpdateRetries.toNat = 0 := hcalm.2.1
      omega

end Bustle

end ScanAdapter
