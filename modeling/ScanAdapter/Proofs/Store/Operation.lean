import ScanAdapter.Proofs.Store.JobMap
import ScanAdapter.Proofs.Store.Protocol

/-!
# What an operation of the store does

One call on one job, seen from the client that makes it. `Progress` is what the client knows in the middle of the
call, `Caller.protocol` what it may ask then, and `Caller.Ends` lists every way in which the call can end. Whatever
is answered, a call keeps to this (`Caller.follows_program`); what is said later of errors, of expiry and of other
clients is read off from it, and the programs of the store are not opened again.
-/
namespace ScanAdapter

/-- What a client knows in the middle of a call. -/
inductive Progress
  /-- The call goes on: from which mark on the key is watched, what was read of it since, and how often the call was
  crossed by somebody else. -/
  | active (mark : Option Nat) (held : Option String) (crossed : Nat)
  /-- There was nothing to be read. -/
  | absent
  /-- What had been read was no longer there to be written. -/
  | gone
  /-- There was something already. -/
  | taken
  /-- The job was written, over the text that had been read. -/
  | written (before : Option String)
  /-- A request failed. -/
  | broken (f : Failure)
  deriving Repr

/-- The failure says that a watched key was changed. -/
def Failure.IsCrossing : Failure → Prop
  | .fault (.server .watch _) => True
  | _ => False

/-- To read is not to be crossed. -/
theorem Server.not_isCrossing_of_read {s : Server} {key : String} {fault : Fault} (h : s.read key = .error fault) :
    ¬ (Failure.fault fault).IsCrossing := by
  unfold read at h
  split at h
  · cases h
  · cases h
    exact id
  · split at h
    · cases h
    · cases h
      exact id

/-- A commit that says so has found the key changed since the mark. -/
theorem Server.mark_ne_of_commit {s s' : Server} {key text : String} {mark : Nat} {seconds : Int} {fault : Fault}
    (h : s.commit key mark text seconds = (.error fault, s')) (hcrossing : (Failure.fault fault).IsCrossing) :
    s.mark key ≠ mark := by
  intro hmark
  rw [commit, if_neg (not_not_intro hmark)] at h
  split at h
  · cases h
    exact hcrossing
  · cases h
  · cases h

namespace Progress

/-- Before the first request. -/
def begun : Progress := .active none none 0

/-- A failed request ends the call, unless it says that a watched key was changed. -/
def afterFailure (mark : Option Nat) (crossed : Nat) : Failure → Progress
  | .fault (.server .watch _) => .active mark none (crossed + 1)
  | f => .broken f

theorem afterFailure_cases (mark : Option Nat) (crossed : Nat) (f : Failure) :
    f.IsCrossing ∧ afterFailure mark crossed f = .active mark none (crossed + 1) ∨
      ¬ f.IsCrossing ∧ afterFailure mark crossed f = .broken f := by
  rcases f with e | (r | u | u | ⟨kind, message⟩ | ⟨kind, message⟩) | timer
  · exact .inr ⟨id, rfl⟩
  · exact .inr ⟨id, rfl⟩
  · exact .inr ⟨id, rfl⟩
  · exact .inr ⟨id, rfl⟩
  · cases kind with
    | watch => exact .inl ⟨trivial, rfl⟩
    | _ => exact .inr ⟨id, rfl⟩
  · exact .inr ⟨id, rfl⟩
  · exact .inr ⟨id, rfl⟩

theorem afterFailure_ne_written (mark : Option Nat) (crossed : Nat) (f : Failure) (before : Option String) :
    afterFailure mark crossed f ≠ .written before := by
  unfold afterFailure
  split <;> nofun

/-- What is known after an answer. Timers tell nothing. -/
def after : Progress → (q : Request) → Outcome q.Reply → Progress
  | .active mark _ crossed, .watch _, .value m => .active (some (mark.getD m)) none crossed
  | .active mark _ crossed, .watch _, .failed f => afterFailure mark crossed f
  | .active mark _ crossed, .readWatched _, .value (some text) => .active mark (some text) crossed
  | .active _ _ _, .readWatched _, .value none => .absent
  | .active mark _ crossed, .readWatched _, .failed f => afterFailure mark crossed f
  | .active _ held _, .commit _ _ _ _, .value true => .written held
  | .active _ _ _, .commit _ _ _ _, .value false => .gone
  | .active _ _ crossed, .commit _ _ _ _, .failed f => afterFailure none crossed f
  | .active _ _ _, .setIfAbsent _ _ _, .value true => .written none
  | .active _ _ _, .setIfAbsent _ _ _, .value false => .taken
  | .active _ _ _, .setIfAbsent _ _ _, .failed f => .broken f
  | .active mark _ crossed, .read _, .value (some text) => .active mark (some text) crossed
  | .active _ _ _, .read _, .value none => .absent
  | .active _ _ _, .read _, .failed f => .broken f
  | k, _, _ => k

end Progress

namespace JobStore

/-- The error of a job that cannot be written. -/
def unwritable (op : Operation) (job : ScanJob) (f : Json.WriteFault) : StoreError :=
  ⟨.storage, op, job.id, s!"marshalling scan job: {f.message}", some (.unwritable f)⟩

theorem encode_error {op : Operation} {job : ScanJob} {f : Json.WriteFault} (h : job.encode = .error f) :
    encode op job = .error (unwritable op job f) := by
  rw [encode, h]
  rfl

/-- What becomes of a failure within an operation, with the limit and the timer in force. -/
def told (op : Operation) (id : String) : Option (Number × Nat) → Failure → Failure
  | none, f => classify op id none f
  | some (limit, timer), .overdue t => if t = timer then deadline op id limit else .overdue t
  | some (limit, _), f => classify op id (some limit) f

theorem told_store (op : Operation) (id : String) (timing : Option (Number × Nat)) (e : StoreError) :
    told op id timing (.store e) = .store e := by
  cases timing <;> rfl

end JobStore

namespace Caller

variable (c : Caller) (id : String)

/-- What a call may ask for. A call that has ended has only its timer to stop. -/
def May : Progress → Request → Prop
  | .active mark held _, q =>
    match q with
    | .startTimer _ | .stopTimer => True
    | .setIfAbsent key text seconds => key = c.store.keyFor id ∧ seconds = c.store.ttl.wholeSeconds ∧
      ∃ job, c.call = .create job ∧ job.encode = .ok text
    | .read key => key = c.store.keyFor id ∧ c.call = .get
    | .watch key => key = c.store.keyFor id ∧ ∃ u, c.call = .update u
    | .readWatched key => key = c.store.keyFor id ∧ mark.isSome ∧ ∃ u, c.call = .update u
    | .commit key m text seconds => key = c.store.keyFor id ∧ seconds = c.store.ttl.wholeSeconds ∧
      mark = some m ∧ ∃ u before job, c.call = .update u ∧ held = some before ∧ ScanJob.decode before = .ok job ∧
        (u.apply job).encode = .ok text
    | .currentTime | .scan => False
  | _, q => q = .stopTimer

def protocol : Protocol Progress := ⟨c.May id, fun k q o k' => k' = k.after q o⟩

/-- Only a call that goes on asks for commands. -/
theorem active_of_isCommand {c : Caller} {id : String} {k : Progress} {q : Request} (hmay : c.May id k q)
    (hq : q.isCommand = true) : ∃ mark held crossed, k = .active mark held crossed := by
  cases k with
  | active mark held crossed => exact ⟨mark, held, crossed, rfl⟩
  | absent | gone | taken | written _ | broken _ =>
    obtain rfl : q = .stopTimer := hmay
    cases hq

/-- A call asks for commands and timers only. -/
theorem isCommand_or_isTimer {c : Caller} {id : String} {k : Progress} {q : Request} (hmay : c.May id k q) :
    q.isCommand = true ∨ q.isTimer = true := by
  cases k with
  | active mark held crossed =>
    cases q with
    | currentTime | scan => cases hmay
    | startTimer _ | stopTimer => exact .inr rfl
    | setIfAbsent _ _ _ | read _ | watch _ | readWatched _ | commit _ _ _ _ => exact .inl rfl
  | absent | gone | taken | written _ | broken _ =>
    obtain rfl : q = .stopTimer := hmay
    exact .inr rfl

/-- The ways in which a call ends. -/
inductive Ends : Progress → Outcome Answer → Prop
  | late {limit : Number} (h : c.store.late? c.timeout = some limit) :
    Ends .begun (.failed (JobStore.deadline c.call.operation id limit))
  /-- A failed request, or a time limit that ran out. -/
  | broken (f : Failure) (timing : Option (Number × Nat)) :
    Ends (.broken f) (.failed (JobStore.told c.call.operation id timing f))
  | unwritableJob {job : ScanJob} {f : Json.WriteFault} (hcall : c.call = .create job) (h : job.encode = .error f) :
    Ends .begun (.failed (.store (JobStore.unwritable .create job f)))
  | created {job : ScanJob} (hcall : c.call = .create job) : Ends (.written none) (.value .created)
  | taken {job : ScanJob} (hcall : c.call = .create job) : Ends .taken (.failed (.store (JobStore.taken job.id)))
  | notFound (hcall : c.call = .get) : Ends .absent (.value (.found none))
  | found {text : String} {job : ScanJob} (hcall : c.call = .get) (h : ScanJob.decode text = .ok job) :
    Ends (.active none (some text) 0) (.value (.found (some job)))
  /-- What was read is no job. -/
  | corrupted {mark : Option Nat} {text : String} {crossed : Nat} {r : Refusal} (h : ScanJob.decode text = .error r) :
    Ends (.active mark (some text) crossed) (.failed (.store (JobStore.corrupted c.call.operation id r)))
  | absent {u : Update} (hcall : c.call = .update u) :
    Ends .absent (.failed (.store (JobStore.notFound u.operation id)))
  | gone {u : Update} (hcall : c.call = .update u) : Ends .gone (.failed (.store (JobStore.expired u.operation id)))
  | unwritableUpdate {u : Update} {mark : Option Nat} {text : String} {crossed : Nat} {job : ScanJob}
    {f : Json.WriteFault} (hcall : c.call = .update u) (hdecode : ScanJob.decode text = .ok job)
    (h : (u.apply job).encode = .error f) :
    Ends (.active mark (some text) crossed) (.failed (.store (JobStore.unwritable u.operation (u.apply job) f)))
  | updated {u : Update} {before : String} {job : ScanJob} (hcall : c.call = .update u)
    (hdecode : ScanJob.decode before = .ok job) : Ends (.written (some before)) (.value (.updated (u.apply job)))
  /-- All attempts were crossed. -/
  | gaveUp {u : Update} {mark : Option Nat} (hcall : c.call = .update u) :
    Ends (.active mark none c.store.maxUpdateRetries.toNat) (.failed (.store (c.store.gaveUp u.operation id)))

end Caller

/-! ## Within a time limit -/

namespace Caller

variable {α : Type} (c : Caller) (id : String)

/-- What is asked of a part of a call: a value as `V` says, or a failure that either came as an answer or is an error
of the store. -/
def Raw (V : Progress → α → Prop) (k : Progress) : Outcome α → Prop
  | .value a => V k a
  | .failed f => k = .broken f ∨ ∃ e, f = .store e ∧ c.Ends id k (.failed f)
  | .silent => False

/-- A value as `V` says, or a failure in which the call ends. -/
def Told (V : Progress → α → Prop) (k : Progress) : Outcome α → Prop
  | .value a => V k a
  | .failed f => c.Ends id k (.failed f)
  | .silent => False

variable {c id} {V : Progress → α → Prop}

theorem Raw.told {k : Progress} {f : Failure} (h : c.Raw id V k (.failed f)) (timing : Option (Number × Nat)) :
    c.Told id V k (.failed (JobStore.told c.call.operation id timing f)) := by
  rcases h with rfl | ⟨e, rfl, hends⟩
  · exact .broken f timing
  · rw [JobStore.told_store]
    exact hends

/-- A time limit adds a way to fail before the first request, and tells the failures of the operation. -/
theorem follows_call {p : Program α} (hp : p.Follows (c.protocol id) (c.Raw id V) .begun) :
    (c.store.call c.call.operation id c.timeout p).Follows (c.protocol id) (c.Told id V) .begun := by
  unfold JobStore.call
  cases hlimit : c.timeout.or c.store.operationTimeout with
  | none =>
    refine hp.andThen fun k o ho => ?_
    cases o with
    | value a => exact ho
    | failed f => exact ho.told none
    | silent => exact ho
  | some limit =>
    dsimp only
    split
    · rename_i hzero
      exact .late (by rw [JobStore.late?, hlimit]; exact Option.filter_eq_some_iff.2 ⟨rfl, hzero⟩)
    · refine ⟨trivial, fun o ho => ?_⟩
      cases o with
      | failed f => cases ho
      | silent => cases ho
      | value timer =>
        refine ⟨.begun, rfl, hp.andThen fun k o hk => ⟨by cases k <;> trivial, fun stopped hstopped => ?_⟩⟩
        cases stopped with
        | failed f => cases hstopped
        | silent => cases hstopped
        | value _ =>
          refine ⟨k, by cases k <;> rfl, ?_⟩
          cases o with
          | value a => exact hk
          | silent => exact False.elim hk
          | failed f =>
            have htold := Raw.told hk (some (limit, timer))
            cases f <;> exact htold

/-- The value of a part of a call is used by the next part. -/
theorem Told.bind {β : Type} {k : Progress} {g : β → Answer} {p : Program α} {next : α → Program β}
    (hp : p.Follows (c.protocol id) (c.Told id V) k)
    (hnext : ∀ k a, V k a → (next a).Follows (c.protocol id) (fun k o => c.Ends id k (o.map g)) k) :
    (p >>= next).Follows (c.protocol id) (fun k o => c.Ends id k (o.map g)) k :=
  Program.Follows.bind hp hnext (fun _ _ h => h) fun _ => False.elim

end Caller

/-! ## The calls -/

namespace Caller

variable {store : JobStore} {timeout : Option Number} {id : String}

theorem follows_create (job : ScanJob) :
    (Caller.program ⟨store, .create job, timeout⟩ job.id).Follows (Caller.protocol ⟨store, .create job, timeout⟩ job.id)
      (Caller.Ends ⟨store, .create job, timeout⟩ job.id) .begun := by
  refine .map (p := store.create job timeout) ?_
  cases hencode : job.encode with
  | error f =>
    rw [JobStore.create, JobStore.encode_error hencode]
    exact .unwritableJob rfl hencode
  | ok text =>
    rw [JobStore.create, JobStore.encode_ok_iff.2 hencode]
    -- the answer tells whether the job was set
    refine Told.bind (V := fun k (created : Bool) => k = if created then .written none else .taken)
      (follows_call (c := ⟨store, .create job, timeout⟩) ?_) ?_
    · refine ⟨⟨rfl, rfl, job, rfl, hencode⟩, fun o ho => ⟨_, rfl, ?_⟩⟩
      cases o with
      | value created => cases created <;> rfl
      | failed f => exact .inl rfl
      | silent => exact ho
    · rintro k (_ | _) rfl
      · exact .taken rfl
      · exact .created rfl

theorem follows_get :
    (Caller.program ⟨store, .get, timeout⟩ id).Follows (Caller.protocol ⟨store, .get, timeout⟩ id)
      (Caller.Ends ⟨store, .get, timeout⟩ id) .begun := by
  refine .map (p := store.get id timeout) ?_
  refine Told.bind (V := fun k (held : Option String) => k = held.elim .absent fun text => .active none (some text) 0)
    (follows_call (c := ⟨store, .get, timeout⟩) ?_) ?_
  · refine ⟨⟨rfl, rfl⟩, fun o ho => ⟨_, rfl, ?_⟩⟩
    cases o with
    | value held => cases held <;> rfl
    | failed f => exact .inl rfl
    | silent => exact ho
  · rintro k (_ | text) rfl
    · exact .notFound rfl
    · cases hdecode : ScanJob.decode text with
      | ok job =>
        change Program.Follows _ _ (some <$> Program.ofExcept (JobStore.decode .get id text)) _
        rw [JobStore.decode_ok_iff.2 hdecode]
        exact .found rfl hdecode
      | error r =>
        change Program.Follows _ _ (some <$> Program.ofExcept (JobStore.decode .get id text)) _
        rw [JobStore.decode_error hdecode]
        exact .corrupted hdecode

/-- How an attempt leaves the call, as far as it does not end it. -/
def AfterAttempt (c : Caller) (id : String) (crossed : Nat) (k : Progress) : JobStore.Attempt → Prop
  | .written job => c.Ends id k (.value (.updated job))
  | .gone => k = .gone
  | .crossed watched => k = .active watched none (crossed + 1)

section

variable {c : Caller} {mark : Option Nat} {held : Option String} {crossed : Nat}

/-- A request that says that the watched key was changed has another way to go on. -/
theorem follows_unlessCrossed {q : Request} {next : Option q.Reply → Program JobStore.Attempt}
    {V : Progress → JobStore.Attempt → Prop} (watched : Option Nat) (hmay : c.May id (.active mark held crossed) q)
    (hfailed : ∀ f, Progress.after (.active mark held crossed) q (.failed f) = Progress.afterFailure watched crossed f)
    (hvalue : ∀ a, (next (some a)).Follows (c.protocol id) (c.Raw id V)
      (Progress.after (.active mark held crossed) q (.value a)))
    (hcrossed : (next none).Follows (c.protocol id) (c.Raw id V) (.active watched none (crossed + 1))) :
    ((Program.ask q .done).unlessCrossed >>= next).Follows (c.protocol id) (c.Raw id V)
      (.active mark held crossed) := by
  refine ⟨hmay, fun o ho => ⟨_, rfl, ?_⟩⟩
  cases o with
  | value a => exact hvalue a
  | silent => exact ho
  | failed f =>
    rw [hfailed]
    cases f with
    | store e => exact .inl rfl
    | overdue timer => exact .inl rfl
    | fault fault =>
      cases fault with
      | server kind message =>
        cases kind with
        | watch => exact hcrossed
        | _ => exact .inl rfl
      | _ => exact .inl rfl

/-- An attempt reads the job, changes it and commits it. -/
theorem follows_attempt (u : Update) (watched : Option Nat) (crossed : Nat) :
    (store.attempt u.operation id u.apply watched).Follows (Caller.protocol ⟨store, .update u, timeout⟩ id)
      (Caller.Raw ⟨store, .update u, timeout⟩ id (AfterAttempt ⟨store, .update u, timeout⟩ id crossed))
      (.active watched none crossed) := by
  refine follows_unlessCrossed watched ⟨rfl, u, rfl⟩ (fun _ => rfl) (fun mark => ?_) rfl
  refine follows_unlessCrossed (some (watched.getD mark)) ⟨rfl, rfl, u, rfl⟩ (fun _ => rfl) (fun held => ?_) rfl
  cases held with
  | none => exact .inr ⟨_, rfl, .absent rfl⟩
  | some before =>
    cases hdecode : ScanJob.decode before with
    | error r =>
      change Program.Follows _ _ (Program.ofExcept (JobStore.decode u.operation id before) >>= _) _
      rw [JobStore.decode_error hdecode]
      exact .inr ⟨_, rfl, .corrupted hdecode⟩
    | ok job =>
      change Program.Follows _ _ (Program.ofExcept (JobStore.decode u.operation id before) >>= _) _
      rw [JobStore.decode_ok_iff.2 hdecode]
      change Program.Follows _ _ (Program.ofExcept (JobStore.encode u.operation (u.apply job)) >>= _) _
      cases hencode : (u.apply job).encode with
      | error f =>
        rw [JobStore.encode_error hencode]
        exact .inr ⟨_, rfl, .unwritableUpdate rfl hdecode hencode⟩
      | ok text =>
        rw [JobStore.encode_ok_iff.2 hencode]
        refine follows_unlessCrossed none ⟨rfl, rfl, rfl, u, before, job, rfl, rfl, hdecode, hencode⟩ (fun _ => rfl)
          (fun written => ?_) rfl
        cases written with
        | true => exact .updated rfl hdecode
        | false => rfl

/-- Attempts are made until one is not crossed, and no more of them than the store allows. -/
theorem follows_attempts (u : Update) (left number : Nat) (watched : Option Nat) (crossed : Nat)
    (hleft : crossed + left = store.maxUpdateRetries.toNat) :
    (store.attempts u.operation id u.apply left number watched).Follows
      (Caller.protocol ⟨store, .update u, timeout⟩ id)
      (Caller.Raw ⟨store, .update u, timeout⟩ id fun k job =>
        Caller.Ends ⟨store, .update u, timeout⟩ id k (.value (.updated job)))
      (.active watched none crossed) := by
  induction left generalizing number watched crossed with
  | zero =>
    rw [Nat.add_zero] at hleft
    subst hleft
    exact .inr ⟨_, rfl, .gaveUp rfl⟩
  | succ left ih =>
    refine Program.Follows.bind (follows_attempt u watched crossed) ?_ (fun _ _ h => h) fun _ => False.elim
    intro k attempt h
    cases attempt with
    | written job => exact h
    | gone =>
      cases h
      exact .inr ⟨_, rfl, .gone rfl⟩
    | crossed watched =>
      cases h
      exact ih (number + 1) watched (crossed + 1) (by omega)

theorem follows_update (u : Update) :
    (Caller.program ⟨store, .update u, timeout⟩ id).Follows (Caller.protocol ⟨store, .update u, timeout⟩ id)
      (Caller.Ends ⟨store, .update u, timeout⟩ id) .begun := by
  refine .map (p := store.perform u id timeout) ?_
  rw [JobStore.perform_eq]
  refine (follows_call (c := ⟨store, .update u, timeout⟩) (follows_attempts u _ 1 none 0 (Nat.zero_add _))).mono ?_
  intro k o ho
  cases o with
  | silent => cases ho
  | _ => exact ho

end

/-- **Whatever is answered, a call keeps to the protocol, and ends in one of the ways that are listed.** -/
theorem follows_program (c : Caller) (id : String) :
    (c.program (c.call.on id)).Follows (c.protocol (c.call.on id)) (c.Ends (c.call.on id)) .begun := by
  obtain ⟨store, call, timeout⟩ := c
  cases call with
  | create job => exact follows_create job
  | get => exact follows_get
  | update u => exact follows_update u

/-- An update comes back only after it has written over what it had read. -/
theorem written_of_value {c : Caller} {id : String} {k : Progress} {u : Update} {a : Answer}
    (hcall : c.call = .update u) (h : c.Ends id k (.value a)) :
    ∃ before, k = .written (some before) := by
  cases h with
  | created hcreate =>
    rw [hcall] at hcreate
    cases hcreate
  | notFound hget | found hget _ =>
    rw [hcall] at hget
    cases hget
  | updated _ _ => exact ⟨_, rfl⟩

end Caller

end ScanAdapter
