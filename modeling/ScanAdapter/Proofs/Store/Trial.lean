import ScanAdapter.Proofs.Store.Crowd
import ScanAdapter.Proofs.Store.Operation

/-!
# Trials

A client that has the server for itself meets with faults: any of its commands may fail and have no effect. Time
passes before a command as long as the key in question does not expire. What a call has come to at each moment is told
by what was under the key when it began and by the faults that it has met with (`Trial.Knows`), and so is its end
(`Trial.ends_call`).
-/
namespace ScanAdapter

/-- What a client meets with, by the number of its command, and what the world around it is like. -/
structure Circumstances where
  /-- The failure of a command, which has no effect then. -/
  faults : Nat → Option Failure
  /-- The seconds that pass before a command. -/
  pauses : Nat → Nat
  clock : Moment
  scan : Except Failure (List Trivy.Vulnerability)

/-- A server and what its only client has done. -/
structure Trial where
  server : Server
  /-- How many commands there have been. -/
  asked : Nat
  /-- The server at each scan. -/
  scanned : List Server

namespace Server

variable {s : Server} {key : String}

/-- Time passes, unless the key would expire by that. -/
def wait (s : Server) (key : String) (seconds : Nat) : Server :=
  if (s.find? key).all fun e => e.isAliveAt (s.now + seconds) then s.advance seconds else s

@[simp] theorem find?_wait (seconds : Nat) : (s.wait key seconds).find? key = s.find? key := by
  unfold wait
  split
  · rename_i halive
    exact find?_advance_of_alive fun e he => by rwa [he, Option.all_some] at halive
  · rfl

@[simp] theorem mark_wait (seconds : Nat) : (s.wait key seconds).mark key = s.mark key := by
  unfold wait
  split <;> rfl

/-- Only the clock goes on. -/
theorem wait_eq (s : Server) (key : String) (seconds : Nat) :
    s.wait key seconds = { s with now := (s.wait key seconds).now } := by
  unfold wait
  split <;> rfl

theorem now_wait (s : Server) (key : String) (seconds : Nat) :
    s.now ≤ (s.wait key seconds).now ∧ (s.wait key seconds).now ≤ s.now + seconds := by
  unfold wait
  split
  · exact ⟨by rw [advance]; dsimp only; omega, le_rfl⟩
  · omega

end Server

namespace Trial

variable {α : Type}

def start (server : Server) : Trial := ⟨server, 0, []⟩

/-- A moment passes before the next command. -/
def pass (c : Circumstances) (key : String) (w : Trial) : Trial :=
  { w with server := w.server.wait key (c.pauses w.asked), asked := w.asked + 1 }

/-- A command is carried out, unless it fails. -/
def command (c : Circumstances) (key : String) (q : Request) (w : Trial) : Outcome q.Reply × Trial :=
  match c.faults w.asked with
  | some f => (.failed f, w.pass c key)
  | none =>
    let (o, server) := (w.pass c key).server.answer q
    (o, { w.pass c key with server })

def handle (c : Circumstances) (key : String) : (q : Request) → Trial → Outcome q.Reply × Trial
  | .currentTime, w => (.value c.clock, w)
  | .startTimer _, w => (.value (0 : Nat), w)
  | .stopTimer, w => (.value (), w)
  | .scan, w =>
    let w := { w with scanned := w.scanned ++ [w.server] }
    match c.scan with
    | .ok vulnerabilities => (.value vulnerabilities, w)
    | .error f => (.failed f, w)
  | q, w => w.command c key q

def run (c : Circumstances) (key : String) (p : Program α) (w : Trial) : Outcome α × Trial :=
  p.run (handle c key) (fun _ w => w) w

theorem handle_of_isCommand {c : Circumstances} {key : String} {q : Request} (hq : q.isCommand = true) (w : Trial) :
    handle c key q w = w.command c key q := by
  cases q with
  | currentTime | startTimer _ | stopTimer | scan => cases hq
  | _ => rfl

/-- A command or a timer is always answered, unless a command fails. -/
theorem mayBring_handle {c : Circumstances} {key : String} {q : Request} (hq : q.isCommand = true ∨ q.isTimer = true)
    (w : Trial) : q.MayBring (handle c key q w).1 := by
  cases hcommand : q.isCommand with
  | true =>
    rw [handle_of_isCommand hcommand, command]
    cases c.faults w.asked with
    | some f => exact Request.isTimer_of_isCommand hcommand
    | none => exact Server.mayBring_answer _ hcommand
  | false =>
    cases q with
    | startTimer _ | stopTimer => trivial
    | currentTime | scan => exact absurd hq (by decide)
    | setIfAbsent _ _ _ | read _ | watch _ | readWatched _ | commit _ _ _ _ => cases hcommand

/-! ## The clock -/

/-- The seconds that pass before so many commands at most, from a command on. -/
def span (c : Circumstances) (first : Nat) : Nat → Nat
  | 0 => 0
  | number + 1 => c.pauses first + span c (first + 1) number

/-- The clock never comes so far that the end of a lifetime could not be told. -/
def Tells (c : Circumstances) (ttl : Int) (w : Trial) : Prop :=
  ∀ number, Server.Tells (w.server.now + span c w.asked number) ttl

theorem Tells.pass {c : Circumstances} {key : String} {ttl : Int} {w : Trial} (h : w.Tells c ttl)
    (httl : 0 ≤ ttl) : (w.pass c key).Tells c ttl := by
  intro number
  obtain ⟨hlow, hhigh⟩ := w.server.now_wait key (c.pauses w.asked)
  have hnow := (h 0).1
  rw [span] at hnow
  have hthen := h (number + 1)
  rw [span] at hthen
  refine hthen.mono ?_ ?_ httl
  · rw [Trial.pass]
    dsimp only
    omega
  · rw [Trial.pass]
    dsimp only
    omega

/-- A clock that stands still. -/
theorem tells_of_still {c : Circumstances} {ttl : Int} {w : Trial} (hstill : ∀ n, c.pauses n = 0)
    (h : Server.Tells w.server.now ttl) : w.Tells c ttl := by
  have hspan : ∀ number first, span c first number = 0 := by
    intro number
    induction number with
    | zero => exact fun _ => rfl
    | succ number ih =>
      intro first
      rw [span, hstill, ih]
  intro number
  rwa [hspan, Nat.cast_zero, Int.add_zero]

/-- The server takes the lifetime. -/
theorem Tells.expiryFault? {c : Circumstances} {ttl : Int} {w : Trial} (h : w.Tells c ttl)
    (httl : 1 ≤ ttl) : w.server.expiryFault? ttl = none := by
  refine Server.expiryFault?_eq_none httl ?_
  have hnow := h 0
  rwa [span, Nat.cast_zero, Int.add_zero] at hnow

end Trial

/-! ## What the client knows -/

/-- The call begins with what is stored already. -/
def Call.reads : Call → Bool
  | create _ => false
  | _ => true

namespace Trial

/-- The client has met with the failure since the call began. -/
def Met (c : Circumstances) (w₀ w : Trial) (f : Failure) : Prop :=
  ∃ n, w₀.asked ≤ n ∧ n < w.asked ∧ c.faults n = some f

/-- What was written is there, and it is what the call was to write. -/
def Wrote (caller : Caller) (key : String) (w₀ w : Trial) (before : Option String) : Prop :=
  ∃ text, w.server.read key = .ok (some text) ∧
    match before with
    | none => w₀.server.find? key = none ∧ ∃ job, caller.call = .create job ∧ job.encode = .ok text
    | some held => w₀.server.read key = .ok (some held) ∧ ∃ u job, caller.call = .update u ∧
      ScanJob.decode held = .ok job ∧ (u.apply job).encode = .ok text

/-- What the client knows of a call that began in `w₀`. -/
def Fits (caller : Caller) (key : String) (c : Circumstances) (w₀ w : Trial) : Progress → Prop
  | .active mark held crossed => (∀ m ∈ mark, w.server.mark key = m) ∧
    (∀ text ∈ held, caller.call.reads = true ∧ w₀.server.read key = .ok (some text)) ∧ (0 < crossed → ∃ f, Met c w₀ w f)
  | .absent => w₀.server.find? key = none
  | .gone => False
  | .taken => ∃ e, w₀.server.find? key = some e
  | .written before => Wrote caller key w₀ w before
  | .broken f => Met c w₀ w f ∨
    caller.call.reads = true ∧ ∃ fault, f = .fault fault ∧ w₀.server.read key = .error fault

/-- What holds at each moment of a call that began in `w₀`. -/
structure Knows (caller : Caller) (key : String) (c : Circumstances) (w₀ : Trial) (k : Progress) (w : Trial) :
    Prop where
  asked : w₀.asked ≤ w.asked
  scanned : w.scanned = w₀.scanned
  clock : w.Tells c caller.store.ttl.wholeSeconds
  /-- A failure ends the call, unless it is a crossing. -/
  met : ∀ f, Met c w₀ w f → f.IsCrossing ∨ k = .broken f
  /-- Nothing is changed but by writing. -/
  untouched : (∀ before, k ≠ .written before) → w.server = { w₀.server with now := w.server.now }
  kept : (∀ before, k ≠ .written before) → w.server.find? key = w₀.server.find? key
  fits : Fits caller key c w₀ w k

variable {caller : Caller} {key : String} {c : Circumstances} {w₀ w w' : Trial} {k k' : Progress}
variable {mark : Option Nat} {held : Option String} {crossed : Nat}

theorem Met.mono {f : Failure} (h : Met c w₀ w f) (hasked : w.asked ≤ w'.asked) : Met c w₀ w' f := by
  obtain ⟨n, hn, hlt, hf⟩ := h
  exact ⟨n, hn, by omega, hf⟩

/-- The next command may be one that fails. -/
theorem Met.cases_pass {f : Failure} (h : Met c w₀ (w.pass c key) f) : Met c w₀ w f ∨ c.faults w.asked = some f := by
  obtain ⟨n, hn, hlt, hf⟩ := h
  rcases Nat.lt_succ_iff_lt_or_eq.1 hlt with hlt | rfl
  · exact .inl ⟨n, hn, hlt, hf⟩
  · exact .inr hf

theorem Met.pass {f : Failure} (h : c.faults w.asked = some f) (hasked : w₀.asked ≤ w.asked) :
    Met c w₀ (w.pass c key) f := ⟨w.asked, hasked, Nat.lt_succ_self _, h⟩

/-- Time passes over what is stored. -/
theorem untouched_pass (h : w.server = { w₀.server with now := w.server.now }) :
    (w.pass c key).server = { w₀.server with now := (w.pass c key).server.now } := by
  have hwait : (w.pass c key).server = { w.server with now := (w.pass c key).server.now } := w.server.wait_eq key _
  rw [h] at hwait
  exact hwait

theorem Fits.pass (h : Fits caller key c w₀ w k) : Fits caller key c w₀ (w.pass c key) k := by
  have hfind : (w.pass c key).server.find? key = w.server.find? key := Server.find?_wait _
  have hmark : (w.pass c key).server.mark key = w.server.mark key := Server.mark_wait _
  have hmet : ∀ f, Met c w₀ w f → Met c w₀ (w.pass c key) f := fun f h => h.mono (Nat.le_succ _)
  cases k with
  | active mark held crossed =>
    refine ⟨fun m hm => hmark.trans (h.1 m hm), h.2.1, fun hcrossed => ?_⟩
    obtain ⟨f, hf⟩ := h.2.2 hcrossed
    exact ⟨f, hmet f hf⟩
  | absent | gone | taken => exact h
  | written before =>
    obtain ⟨text, hread, hwrote⟩ := h
    exact ⟨text, (Server.read_congr hfind).trans hread, hwrote⟩
  | broken f => exact h.imp_left (hmet f)

namespace Knows

theorem start (hclock : w.Tells c caller.store.ttl.wholeSeconds) : Knows caller key c w .begun w where
  asked := le_rfl
  scanned := rfl
  clock := hclock
  met f hf := by
    obtain ⟨n, hle, hlt, -⟩ := hf
    omega
  untouched _ := rfl
  kept _ := rfl
  fits := ⟨nofun, nofun, nofun⟩

/-- A moment passes, and the next command does not fail. -/
theorem pass (h : Knows caller key c w₀ k w) (hlife : 1 ≤ caller.store.ttl.wholeSeconds)
    (hfault : c.faults w.asked = none) : Knows caller key c w₀ k (w.pass c key) where
  asked := h.asked.trans (Nat.le_succ _)
  scanned := h.scanned
  clock := h.clock.pass (by omega)
  met f hf := by
    rcases hf.cases_pass with hf | hf
    · exact h.met f hf
    · rw [hfault] at hf
      cases hf
  untouched hk := untouched_pass (h.untouched hk)
  kept hk := (Server.find?_wait _).trans (h.kept hk)
  fits := h.fits.pass

/-- A moment passes, and the next command fails: this is the end, unless it is a crossing. -/
theorem fail {f : Failure} (mark' : Option Nat) (h : Knows caller key c w₀ (.active mark held crossed) w)
    (hlife : 1 ≤ caller.store.ttl.wholeSeconds) (hfault : c.faults w.asked = some f)
    (hmark : ∀ m ∈ mark', w.server.mark key = m)
    (hk : f.IsCrossing ∧ k = .active mark' none (crossed + 1) ∨ k = .broken f) :
    Knows caller key c w₀ k (w.pass c key) where
  asked := h.asked.trans (Nat.le_succ _)
  scanned := h.scanned
  clock := h.clock.pass (by omega)
  met f' hf' := by
    rcases hf'.cases_pass with hmet | hnext
    · exact .inl ((h.met f' hmet).resolve_right nofun)
    · rw [hfault] at hnext
      cases hnext
      exact hk.imp_left And.left
  untouched _ := untouched_pass (h.untouched nofun)
  kept _ := (Server.find?_wait _).trans (h.kept nofun)
  fits := by
    have hmet : Met c w₀ (w.pass c key) f := .pass hfault h.asked
    rcases hk with ⟨-, rfl⟩ | rfl
    · exact ⟨fun m hm => (Server.mark_wait _).trans (hmark m hm), nofun, fun _ => ⟨f, hmet⟩⟩
    · exact .inl hmet

/-- The client gets to know more, and the server stays as it is. -/
theorem look (h : Knows caller key c w₀ (.active mark held crossed) w) (hfits : Fits caller key c w₀ w k) :
    Knows caller key c w₀ k w where
  asked := h.asked
  scanned := h.scanned
  clock := h.clock
  met f hf := .inl ((h.met f hf).resolve_right nofun)
  untouched _ := h.untouched nofun
  kept _ := h.kept nofun
  fits := hfits

/-- The client has written. -/
theorem write (server : Server) {before : Option String} (h : Knows caller key c w₀ (.active mark held crossed) w)
    (hnow : server.now = w.server.now) (hwrote : Wrote caller key w₀ { w with server } before) :
    Knows caller key c w₀ (.written before) { w with server } where
  asked := h.asked
  scanned := h.scanned
  clock number := by
    rw [hnow]
    exact h.clock number
  met f hf := .inl ((h.met f hf).resolve_right nofun)
  untouched hk := absurd rfl (hk before)
  kept hk := absurd rfl (hk before)
  fits := hwrote

/-! ## One request -/

section

variable {id : String}

/-- What the client knows after a failed command. -/
theorem failed {q : Request} {f : Failure} (h : Knows caller key c w₀ k w)
    (hlife : 1 ≤ caller.store.ttl.wholeSeconds) (hmay : caller.May id k q) (hq : q.isCommand = true)
    (hfault : c.faults w.asked = some f) : Knows caller key c w₀ (k.after q (.failed f)) (w.pass c key) := by
  obtain ⟨mark, held, crossed, rfl⟩ := Caller.active_of_isCommand hmay hq
  cases q with
  | currentTime | startTimer _ | stopTimer | scan => cases hq
  | setIfAbsent _ _ _ | read _ => exact h.fail none hlife hfault nofun (.inr rfl)
  | watch _ | readWatched _ =>
    refine h.fail mark hlife hfault h.fits.1 ?_
    exact (Progress.afterFailure_cases mark crossed f).imp_right And.right
  | commit _ _ _ _ =>
    refine h.fail none hlife hfault nofun ?_
    exact (Progress.afterFailure_cases none crossed f).imp_right And.right

/-- A text that was read was there from the beginning. -/
theorem fits_read {text : String} (h : Knows caller key c w₀ (.active mark held crossed) w)
    (hcall : caller.call.reads = true) (hread : w.server.read key = .ok (some text)) :
    Fits caller key c w₀ w (.active mark (some text) crossed) := by
  refine ⟨h.fits.1, ?_, h.fits.2.2⟩
  rintro _ ⟨⟩
  exact ⟨hcall, (Server.read_congr (h.kept nofun)).symm.trans hread⟩

theorem fits_absent (h : Knows caller key c w₀ (.active mark held crossed) w) (hread : w.server.read key = .ok none) :
    Fits caller key c w₀ w .absent := by
  rw [Server.read_congr (h.kept nofun)] at hread
  exact Server.find?_of_read_none hread

theorem fits_unreadable {fault : Fault} (h : Knows caller key c w₀ (.active mark held crossed) w)
    (hcall : caller.call.reads = true) (hread : w.server.read key = .error fault) :
    Fits caller key c w₀ w (.broken (.fault fault)) := by
  rw [Server.read_congr (h.kept nofun)] at hread
  exact .inr ⟨hcall, fault, rfl, hread⟩

/-- What the client knows after a command that was carried out. -/
theorem answered {q : Request} (h : Knows caller (caller.store.keyFor id) c w₀ k w)
    (hlife : 1 ≤ caller.store.ttl.wholeSeconds) (hmay : caller.May id k q) (hq : q.isCommand = true) :
    Knows caller (caller.store.keyFor id) c w₀ (k.after q (w.server.answer q).1)
      { w with server := (w.server.answer q).2 } := by
  have htaken := h.clock.expiryFault? hlife
  have hseconds : 0 ≤ caller.store.ttl.wholeSeconds := by omega
  obtain ⟨mark, held, crossed, rfl⟩ := Caller.active_of_isCommand hmay hq
  cases q with
  | currentTime | startTimer _ | stopTimer | scan => cases hq
  | setIfAbsent key text seconds =>
    obtain ⟨rfl, rfl, job, hcall, hencode⟩ := hmay
    cases hfind : w.server.find? (caller.store.keyFor id) with
    | some e =>
      rw [Server.answer_setIfAbsent (Server.setIfAbsent_taken htaken hfind)]
      exact h.look ⟨e, (h.kept nofun).symm.trans hfind⟩
    | none =>
      rw [Server.answer_setIfAbsent (Server.setIfAbsent_free htaken hfind)]
      exact h.write _ rfl ⟨text, Server.read_put_textFor hseconds, (h.kept nofun).symm.trans hfind, job, hcall,
        hencode⟩
  | read key =>
    obtain ⟨rfl, hcall⟩ := hmay
    cases hread : w.server.read (caller.store.keyFor id) with
    | error fault =>
      rw [Server.answer_read_error hread]
      exact h.look (h.fits_unreadable (by rw [hcall]; rfl) hread)
    | ok held =>
      rw [Server.answer_read hread]
      cases held with
      | none => exact h.look (h.fits_absent hread)
      | some text => exact h.look (h.fits_read (by rw [hcall]; rfl) hread)
  | watch key =>
    obtain ⟨rfl, -⟩ := hmay
    refine h.look ⟨?_, nofun, h.fits.2.2⟩
    -- the first mark stays in force, and the key was not changed since
    rintro m ⟨⟩
    cases mark with
    | none => rfl
    | some first => exact h.fits.1 first rfl
  | readWatched key =>
    obtain ⟨rfl, -, u, hcall⟩ := hmay
    cases hread : w.server.read (caller.store.keyFor id) with
    | error fault =>
      rw [Server.answer_readWatched_error hread]
      have hbroken : Progress.afterFailure mark crossed (.fault fault) = .broken (.fault fault) :=
        ((Progress.afterFailure_cases mark crossed (.fault fault)).resolve_left fun hcross =>
          Server.not_isCrossing_of_read hread hcross.1).2
      change Knows _ _ _ _ (Progress.afterFailure mark crossed (.fault fault)) _
      rw [hbroken]
      exact h.look (h.fits_unreadable (by rw [hcall]; rfl) hread)
    | ok held =>
      rw [Server.answer_readWatched hread]
      cases held with
      | none => exact h.look (h.fits_absent hread)
      | some text => exact h.look (h.fits_read (by rw [hcall]; rfl) hread)
  | commit key m text seconds =>
    obtain ⟨rfl, rfl, rfl, u, before, job, hcall, rfl, hdecode, hencode⟩ := hmay
    obtain ⟨-, hread⟩ := h.fits.2.1 before rfl
    obtain ⟨e, hfind⟩ := Server.find?_of_read_some hread
    have hset : w.server.commit _ _ text _ = _ := Server.commit_unchanged htaken ((h.kept nofun).trans hfind)
    rw [h.fits.1 m rfl] at hset
    rw [Server.answer_commit hset]
    exact h.write _ rfl ⟨text, Server.read_put_textFor hseconds, hread, u, job, hcall, hdecode, hencode⟩

end

end Knows

/-! ## A call -/

theorem Knows.handle {id : String} {q : Request} (h : Knows caller (caller.store.keyFor id) c w₀ k w)
    (hlife : 1 ≤ caller.store.ttl.wholeSeconds) (hmay : caller.May id k q) :
    Knows caller (caller.store.keyFor id) c w₀ (k.after q (Trial.handle c (caller.store.keyFor id) q w).1)
      (Trial.handle c (caller.store.keyFor id) q w).2 := by
  cases hq : q.isCommand with
  | true =>
    rw [handle_of_isCommand hq, command]
    cases hfault : c.faults w.asked with
    | some f => exact h.failed hlife hmay hq hfault
    | none => exact (h.pass hlife hfault).answered hlife hmay hq
  | false =>
    cases q with
    | setIfAbsent _ _ _ | read _ | watch _ | readWatched _ | commit _ _ _ _ => cases hq
    | currentTime | scan =>
      cases k with
      | active mark held crossed => cases hmay
      | absent | gone | taken | written _ | broken _ => cases hmay
    | startTimer _ | stopTimer =>
      cases k with
      | active mark held crossed => exact h
      | absent | gone | taken | written _ | broken _ => exact h

/-- **A call ends in one of its ways, with what its client knows by then.** -/
theorem ends_call (caller : Caller) (id : String) (c : Circumstances) (w : Trial)
    (hlife : 1 ≤ caller.store.ttl.wholeSeconds) (hclock : w.Tells c caller.store.ttl.wholeSeconds) :
    ∃ k, caller.Ends (caller.call.on id) k
        (w.run c (caller.store.keyFor (caller.call.on id)) (caller.program (caller.call.on id))).1 ∧
      Knows caller (caller.store.keyFor (caller.call.on id)) c w k
        (w.run c (caller.store.keyFor (caller.call.on id)) (caller.program (caller.call.on id))).2 := by
  refine (caller.follows_program id).run (I := Knows caller (caller.store.keyFor (caller.call.on id)) c w)
    (Knows.start hclock) (fun _ h => h) fun h hmay => ?_
  exact ⟨mayBring_handle (Caller.isCommand_or_isTimer hmay) _, fun k' (hk' : k' = _) => hk' ▸ h.handle hlife hmay⟩

/-- The clock does not come too far in a call. -/
theorem Tells.run_call (caller : Caller) (id : String) (hclock : w.Tells c caller.store.ttl.wholeSeconds)
    (hlife : 1 ≤ caller.store.ttl.wholeSeconds) :
    (w.run c (caller.store.keyFor (caller.call.on id)) (caller.program (caller.call.on id))).2.Tells c
      caller.store.ttl.wholeSeconds := by
  obtain ⟨k, -, hknows⟩ := ends_call caller id c w hlife hclock
  exact hknows.clock

end Trial

end ScanAdapter
