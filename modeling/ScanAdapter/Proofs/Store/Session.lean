import ScanAdapter.Proofs.Store.Committed

/-!
# What a call may ask of the server

A client makes one call on one job. Whatever the server answers, the call asks for its key only, writes at most
once, and an update commits only what it makes of the text that it read under the watch in force (`Obeys`). That
is all that the others have to know of it.
-/
namespace ScanAdapter

/-- A call on a job. -/
inductive Call
  | create (job : ScanJob)
  | get
  | update (u : Update)
  deriving Repr

namespace Call

def job? : Call → Option ScanJob
  | create job => some job
  | _ => none

def update? : Call → Option Update
  | update u => some u
  | _ => none

theorem eq_create_of_job? {c : Call} {job : ScanJob} (h : c.job? = some job) : c = create job := by
  cases c with
  | create job' =>
    cases h
    rfl
  | get => cases h
  | update u => cases h

/-- No object in the free-form data of the call repeats a name. -/
def NamesDiffer (c : Call) : Prop := (∀ job ∈ c.job?, job.NamesDiffer) ∧ ∀ u ∈ c.update?, u.NamesDiffer

end Call

/-- What a call comes to. -/
inductive Answer
  | created
  | found (job : Option ScanJob)
  | updated (job : ScanJob)
  deriving Repr

/-- What a client has seen of the key: the mark from which on it watches, the text that it read since, and whether it
has written. -/
structure Session where
  mark : Option Nat := none
  held : Option String := none
  wrote : Bool := false
  deriving DecidableEq, Repr

variable {α β : Type}

/-- A call that is cut off, by a time limit or from outside, may or may not have written. -/
def Failure.IsCut : Failure → Prop
  | .overdue _ => True
  | .store e => e.kind = .deadlineExceeded
  | .fault _ => False

/-- The program goes by the rules for a call on a key, from a session on, and ends in a session and with an outcome
as `P` asks. There are rules for the requests of the job store only; each says how the program may go on after the
answers that the server gives, and after it is cut off. -/
inductive Obeys (key : String) (call : Call) (P : Session → Outcome α → Prop) : Session → Program α → Prop
  | done {st : Session} {o : Outcome α} (h : P st o) : Obeys key call P st (.done o)
  | note {st : Session} {line : LogLine} {p : Program α} (h : Obeys key call P st p) :
    Obeys key call P st (.note line p)
  | startTimer {st : Session} {limit : Number} {next : Outcome Nat → Program α}
    (h : Obeys key call P st (next (.value 0))) (hcut : ∀ t st', Obeys key call P st' (next (.failed (.overdue t)))) :
    Obeys key call P st (.ask (.startTimer limit) next)
  | stopTimer {st : Session} {next : Outcome Unit → Program α} (h : Obeys key call P st (next (.value ())))
    (hcut : ∀ t st', Obeys key call P st' (next (.failed (.overdue t)))) :
    Obeys key call P st (.ask .stopTimer next)
  | read {st : Session} {next : Outcome (Option String) → Program α}
    (h : ∀ held, Obeys key call P st (next (.value held)))
    (hcut : ∀ t st', Obeys key call P st' (next (.failed (.overdue t)))) : Obeys key call P st (.ask (.read key) next)
  | watch {st : Session} {next : Outcome Nat → Program α}
    (h : ∀ mark, Obeys key call P ⟨some mark, none, st.wrote⟩ (next (.value mark)))
    (hcut : ∀ t st', Obeys key call P st' (next (.failed (.overdue t)))) :
    Obeys key call P st (.ask (.watch key) next)
  | readWatched {st : Session} {next : Outcome (Option String) → Program α}
    (h : ∀ held, Obeys key call P { st with held } (next (.value held)))
    (hcut : ∀ t st', Obeys key call P st' (next (.failed (.overdue t)))) :
    Obeys key call P st (.ask (.readWatched key) next)
  | setIfAbsent {st : Session} {job : ScanJob} {text : String} {seconds : Int} {next : Outcome Bool → Program α}
    (hcall : call = .create job) (hfresh : st.wrote = false) (hencode : job.encode = .ok text)
    (hdone : Obeys key call P { st with wrote := true } (next (.value true)))
    (htaken : Obeys key call P st (next (.value false)))
    (hfault : ∀ f, Obeys key call P st (next (.failed (.fault f))))
    (hcut : ∀ t st', Obeys key call P st' (next (.failed (.overdue t)))) :
    Obeys key call P st (.ask (.setIfAbsent key text seconds) next)
  | commit {st : Session} {u : Update} {mark : Nat} {before text : String} {job : ScanJob} {seconds : Int}
    {next : Outcome Bool → Program α} (hcall : call = .update u) (hfresh : st.wrote = false)
    (hmark : st.mark = some mark) (hheld : st.held = some before) (hdecode : ScanJob.decode before = .ok job)
    (hencode : (u.apply job).encode = .ok text)
    (hdone : Obeys key call P ⟨none, none, true⟩ (next (.value true)))
    (hgone : Obeys key call P ⟨none, none, false⟩ (next (.value false)))
    (hfault : ∀ f, Obeys key call P ⟨none, none, false⟩ (next (.failed (.fault f))))
    (hcut : ∀ t st', Obeys key call P st' (next (.failed (.overdue t)))) :
    Obeys key call P st (.ask (.commit key mark text seconds) next)

/-- A program ends with a value as `P` asks, or fails without having written unless it is cut off. -/
def Session.Ends (P : Session → α → Prop) (st : Session) : Outcome α → Prop
  | .value a => P st a
  | .failed f => f.IsCut ∨ st.wrote = false
  | .silent => st.wrote = false

namespace Obeys

variable {key : String} {call : Call} {st : Session}

/-- Wherever a program is cut off, it goes on by the rules, whatever it has written. -/
theorem of_cut {P : Session → Outcome α → Prop} {q : Request} {next : Outcome q.Reply → Program α}
    (h : Obeys key call P st (.ask q next)) (t : Nat) (st' : Session) :
    Obeys key call P st' (next (.failed (.overdue t))) := by
  cases h with
  | startTimer _ hcut | stopTimer _ hcut | read _ hcut | watch _ hcut | readWatched _ hcut => exact hcut t st'
  | setIfAbsent _ _ _ _ _ _ hcut => exact hcut t st'
  | commit _ _ _ _ _ _ _ _ _ hcut => exact hcut t st'

theorem andThen {Q : Session → Outcome α → Prop} {P : Session → Outcome β → Prop} {p : Program α}
    {next : Outcome α → Program β} (h : Obeys key call Q st p)
    (hnext : ∀ st o, Q st o → Obeys key call P st (next o)) : Obeys key call P st (p.andThen next) := by
  induction h with
  | done h => exact hnext _ _ h
  | note _ ih => exact .note ih
  | startTimer _ _ ih ihcut => exact .startTimer ih ihcut
  | stopTimer _ _ ih ihcut => exact .stopTimer ih ihcut
  | read _ _ ih ihcut => exact .read ih ihcut
  | watch _ _ ih ihcut => exact .watch ih ihcut
  | readWatched _ _ ih ihcut => exact .readWatched ih ihcut
  | setIfAbsent hcall hfresh hencode _ _ _ _ ihdone ihtaken ihfault ihcut =>
    exact .setIfAbsent hcall hfresh hencode ihdone ihtaken ihfault ihcut
  | commit hcall hfresh hmark hheld hdecode hencode _ _ _ _ ihdone ihgone ihfault ihcut =>
    exact .commit hcall hfresh hmark hheld hdecode hencode ihdone ihgone ihfault ihcut

section

variable {Q : Session → α → Prop} {P : Session → β → Prop}

/-- The value of a program is used by the next one. -/
theorem bind {p : Program α} {next : α → Program β} (h : Obeys key call (Session.Ends Q) st p)
    (hnext : ∀ st a, Q st a → Obeys key call (Session.Ends P) st (next a)) :
    Obeys key call (Session.Ends P) st (p >>= next) := by
  refine h.andThen fun st o ho => ?_
  cases o with
  | value a => exact hnext st a ho
  | failed f => exact .done ho
  | silent => exact .done ho

theorem pure {b : β} (h : P st b) : Obeys key call (Session.Ends P) st (Pure.pure b) := .done h

theorem fail {f : Failure} (h : f.IsCut ∨ st.wrote = false) : Obeys key call (Session.Ends P) st (.fail f) := .done h

theorem ofExcept {r : Except StoreError β} (h : st.wrote = false) (hok : ∀ b, r = .ok b → P st b) :
    Obeys key call (Session.Ends P) st (.ofExcept r) := by
  cases r with
  | ok b => exact .done (hok b rfl)
  | error e => exact .fail (.inr h)

/-- A program that is cut off is at its end. -/
theorem cut (t : Nat) (st : Session) : Obeys key call (Session.Ends P) st (.done (.failed (.overdue t))) :=
  .done (.inl trivial)

end

end Obeys

/-! ## The calls of the job store -/

namespace JobStore

variable (s : JobStore) {st : Session} {op : Operation} {id : String} {timeout : Option Number}

/-- To name a failure does not make it look as if nothing was written. -/
theorem isCut_classify {f : Failure} {limit : Option Number} (h : f.IsCut ∨ st.wrote = false) :
    (classify op id limit f).IsCut ∨ st.wrote = false := by
  cases f with
  | overdue t => exact h
  | store e => exact h
  | fault f => exact h.imp_left False.elim

/-- A time limit asks nothing of the key, and an operation that is not begun fails without writing. -/
theorem obeys_call {call : Call} {key : String} {P : Session → α → Prop} {p : Program α}
    (hp : Obeys key call (Session.Ends P) st p) (hfresh : st.wrote = false) :
    Obeys key call (Session.Ends P) st (s.call op id timeout p) := by
  unfold JobStore.call
  split
  · refine hp.andThen fun st o ho => ?_
    cases o with
    | value a => exact .done ho
    | failed f => exact .fail (isCut_classify ho)
    | silent => exact .done ho
  · split
    · exact .fail (.inr hfresh)
    · refine .startTimer (hp.andThen fun st o ho => .stopTimer ?_ .cut) .cut
      cases o with
      | value a => exact .done ho
      | silent => exact .fail (.inr ho)
      | failed f =>
        cases f with
        | overdue t =>
          refine .fail (.inl ?_)
          split <;> trivial
        | store e => exact .fail (isCut_classify ho)
        | fault f => exact .fail (isCut_classify ho)

theorem obeys_create (job : ScanJob) (timeout : Option Number) :
    Obeys (s.keyFor job.id) (.create job) (Session.Ends fun st _ => st.wrote = true) {} (s.create job timeout) := by
  refine .bind (Q := fun st text => st.wrote = false ∧ job.encode = .ok text) (.ofExcept rfl ?_) ?_
  · intro text htext
    exact ⟨rfl, encode_ok_iff.1 htext⟩
  · rintro st text ⟨hfresh, hencode⟩
    refine .note (.bind (Q := fun st created => st.wrote = created) (s.obeys_call ?_ hfresh) ?_)
    · exact .setIfAbsent rfl hfresh hencode (.done rfl) (.done hfresh) (fun f => .done (.inr hfresh)) .cut
    · rintro st created hwrote
      cases created with
      | true => exact .pure hwrote
      | false => exact .fail (.inr hwrote)

theorem obeys_get (id : String) (timeout : Option Number) :
    Obeys (s.keyFor id) .get (Session.Ends fun st _ => st.wrote = false) {} (s.get id timeout) := by
  refine .bind (Q := fun st _ => st.wrote = false) (s.obeys_call (.read (fun held => .done rfl) .cut) rfl) ?_
  rintro st held hfresh
  cases held with
  | none => exact .pure hfresh
  | some text =>
    exact .bind (Q := fun st _ => st.wrote = false) (.ofExcept hfresh fun _ _ => hfresh) fun st _ h => .pure h

/-- How an attempt leaves the session. -/
def Attempt.Leaves (st : Session) : Attempt → Prop
  | .written _ => st.wrote = true
  | .gone => st.wrote = false
  | .crossed watched => watched = none ∧ st.wrote = false

/-- An attempt commits what the update makes of the text that the attempt itself has read. -/
theorem obeys_attempt (u : Update) (id : String) (hfresh : st.wrote = false) :
    Obeys (s.keyFor id) (.update u) (Session.Ends Attempt.Leaves) st
      (s.attempt u.operation id u.apply none) := by
  unfold attempt
  refine .watch (fun mark => .readWatched (fun held => ?_) .cut) .cut
  cases held with
  | none => exact .done (.inr hfresh)
  | some before =>
    change Obeys _ _ _ ⟨some mark, some before, st.wrote⟩ (Program.ofExcept (decode u.operation id before) >>= _)
    refine .bind (Q := fun st job => st = ⟨some mark, some before, false⟩ ∧ ScanJob.decode before = .ok job)
      (.ofExcept hfresh fun job hjob => ⟨by rw [hfresh], decode_ok_iff.1 hjob⟩) ?_
    rintro _ job ⟨rfl, hdecode⟩
    refine .bind (Q := fun st text => st = ⟨some mark, some before, false⟩ ∧ (u.apply job).encode = .ok text)
      (.ofExcept rfl fun text htext => ⟨rfl, encode_ok_iff.1 htext⟩) ?_
    rintro _ text ⟨rfl, hencode⟩
    refine .commit rfl rfl rfl rfl hdecode hencode (.done rfl) (.done rfl) (fun f => ?_) .cut
    -- a commit that is crossed is tried again, any other fault is the end
    cases f with
    | server kind message =>
      cases kind with
      | watch => exact .done ⟨rfl, rfl⟩
      | _ => exact .fail (.inr rfl)
    | _ => exact .fail (.inr rfl)

/-- Attempts do not commit until one succeeds, and none comes after that. -/
theorem obeys_attempts (u : Update) (id : String) (left number : Nat) (hfresh : st.wrote = false) :
    Obeys (s.keyFor id) (.update u) (Session.Ends fun st _ => st.wrote = true) st
      (s.attempts u.operation id u.apply left number none) := by
  induction left generalizing number st with
  | zero => exact .fail (.inr hfresh)
  | succ left ih =>
    refine .bind (s.obeys_attempt u id hfresh) fun st attempt h => ?_
    cases attempt with
    | written job => exact .note (.pure h)
    | gone => exact .fail (.inr h)
    | crossed watched =>
      obtain ⟨rfl, hfresh⟩ := h
      exact .note (ih (number + 1) hfresh)

theorem obeys_perform (u : Update) (id : String) (timeout : Option Number) :
    Obeys (s.keyFor id) (.update u) (Session.Ends fun st _ => st.wrote = true) {} (s.perform u id timeout) := by
  rw [perform_eq]
  exact .note (s.obeys_call (s.obeys_attempts u id _ _ rfl) rfl)

end JobStore

/-! ## Callers -/

/-- A client that makes one call through its own store. -/
structure Caller where
  store : JobStore
  call : Call
  timeout : Option Number
  deriving Repr

namespace Caller

/-- The call of a client, on the job of the given identity. -/
def program (c : Caller) (id : String) : Program Answer :=
  match c.call with
  | .create job => (fun _ => .created) <$> c.store.create job c.timeout
  | .get => .found <$> c.store.get id c.timeout
  | .update u => .updated <$> c.store.perform u id c.timeout

/-- Whether a call that ends well has written. -/
def writes (c : Caller) : Bool :=
  match c.call with
  | .get => false
  | _ => true

theorem obeys_program (c : Caller) (id : String) (hid : ∀ job, c.call = .create job → job.id = id) :
    Obeys (c.store.keyFor id) c.call (Session.Ends fun st _ => st.wrote = c.writes) {} (c.program id) := by
  obtain ⟨store, call, timeout⟩ := c
  cases call with
  | create job =>
    obtain rfl := hid job rfl
    exact .bind (store.obeys_create job timeout) fun st _ h => .pure h
  | get => exact .bind (store.obeys_get id timeout) fun st _ h => .pure h
  | update u => exact .bind (store.obeys_perform u id timeout) fun st _ h => .pure h

end Caller

end ScanAdapter
