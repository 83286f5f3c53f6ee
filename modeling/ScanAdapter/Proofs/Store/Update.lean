import ScanAdapter.Proofs.Wire.Decoded
import ScanAdapter.Store.Server
import ScanAdapter.Store.Basic

/-!
# Updates

The two updates of a job are one operation with a change as its parameter. An attempt at it asks the server three
things: where the changes of the key have come to, what the key holds, and to commit. The lemmas here run an
attempt in any world that answers these, so that what happens to the world in between is left open.
-/
namespace ScanAdapter

/-- A change of a job: to a status, with an error if there is one, or to a report. -/
inductive Update
  | moveTo (status : JobStatus) (error : Option String)
  | attach (report : ScanReport)
  deriving Repr

namespace Update

def operation : Update → Operation
  | moveTo _ _ => .updateStatus
  | attach _ => .updateReport

/-- The job after the change. -/
def apply : Update → ScanJob → ScanJob
  | moveTo status error, job => { job with status, error := error.or job.error }
  | attach report, job => { job with report := some report }

/-- What the log says of the change before it is tried. -/
def notice : Update → String
  | moveTo status _ => s!"Updating status for scan job. new_status={status.text}"
  | attach _ => "Updating report for scan job."

/-- What keeps the change from being written. -/
def fault? : Update → Option Json.WriteFault
  | moveTo _ _ => none
  | attach report => report.fault?

theorem fault?_apply {u : Update} {job : ScanJob} (hu : u.fault? = none)
    (hjob : job.report.bind ScanReport.fault? = none) : (u.apply job).report.bind ScanReport.fault? = none := by
  cases u with
  | moveTo status error => exact hjob
  | attach report => exact hu

end Update

theorem ScanJob.encode_of_fault? {job : ScanJob} (h : job.report.bind ScanReport.fault? = none) :
    job.encode = .ok job.toJson.render := by
  rw [encode, h]
  rfl

/-- The outcome is a value or an error of the store. -/
def Outcome.OfStore {α : Type} : Outcome α → Prop
  | .value _ | .failed (.store _) => True
  | _ => False

namespace JobStore

variable (s : JobStore)

/-- Make a change of a job. -/
def perform (u : Update) (id : String) (timeout : Option Number) : Program ScanJob :=
  match u with
  | .moveTo status error => s.updateStatus id status error timeout
  | .attach report => s.updateReport id report timeout

theorem perform_eq (u : Update) (id : String) (timeout : Option Number) :
    s.perform u id timeout = .note (debug id u.notice) (s.update u.operation id timeout u.apply) := by
  cases u <;> rfl

theorem encode_of_fault? {op : Operation} {job : ScanJob} (h : job.report.bind ScanReport.fault? = none) :
    encode op job = .ok job.toJson.render := by
  rw [encode, ScanJob.encode_of_fault? h]

theorem encode_ok_iff {op : Operation} {job : ScanJob} {text : String} :
    encode op job = .ok text ↔ job.encode = .ok text := by
  unfold encode
  cases job.encode with
  | ok t => simp
  | error f => simp

theorem decode_ok_iff {op : Operation} {id text : String} {job : ScanJob} :
    decode op id text = .ok job ↔ ScanJob.decode text = .ok job := by
  unfold decode
  cases ScanJob.decode text with
  | ok j => simp
  | error r => simp

/-- The corruption that an undecodable text is reported as. -/
def corrupted (op : Operation) (id : String) (r : Refusal) : StoreError :=
  ⟨.corruption, op, id, s!"unmarshalling scan job: {r.text}", some (.refused r)⟩

theorem decode_error {op : Operation} {id text : String} {r : Refusal} (h : ScanJob.decode text = .error r) :
    decode op id text = .error (corrupted op id r) := by
  rw [decode, h]
  rfl

/-- The time limit in force leaves an operation time to begin. -/
def HasTime (timeout : Option Number) : Prop := ∀ limit ∈ timeout.or s.operationTimeout, limit.isAtMostZero = false

/-- A store that tries an update twice. -/
def sampleStore : JobStore := ⟨"harbor", .seconds 3600, none, 2⟩

/-- What an attempt to write a job comes to with the reply to its commit. -/
def Attempt.ofReply (job : ScanJob) : Outcome Bool → Outcome Attempt
  | .value true => .value (.written job)
  | .value false => .value .gone
  | .failed (.fault (.server .watch _)) => .value (.crossed none)
  | .failed f => .failed f
  | .silent => .silent

/-! ## Running an attempt -/

section

variable {σ : Type} {handle : (q : Request) → σ → Outcome q.Reply × σ} {write : LogLine → σ → σ} {w : σ}
variable {op : Operation} {id : String} {change : ScanJob → ScanJob} {mark : Nat}

/-- A key that holds nothing. -/
theorem run_attempt_absent (hwatch : handle (.watch (s.keyFor id)) w = (.value mark, w))
    (hread : handle (.readWatched (s.keyFor id)) w = (.value none, w)) :
    (s.attempt op id change none).run handle write w = (.failed (.store (notFound op id)), w) := by
  simp only [attempt, bind, Program.andWith, Program.unlessCrossed, Program.watch, Program.readWatched,
    Program.andThen, Program.run, hwatch, hread, Program.fail]

/-- A key that holds a text which is no job. -/
theorem run_attempt_undecodable {text : String} {r : Refusal}
    (hwatch : handle (.watch (s.keyFor id)) w = (.value mark, w))
    (hread : handle (.readWatched (s.keyFor id)) w = (.value (some text), w))
    (hdecode : ScanJob.decode text = .error r) :
    (s.attempt op id change none).run handle write w = (.failed (.store (corrupted op id r)), w) := by
  simp only [attempt, bind, Program.andWith, Program.unlessCrossed, Program.watch, Program.readWatched,
    Program.andThen, Program.run, hwatch, hread, decode_error hdecode, Program.ofExcept, Program.fail]

/-- A key that holds a job: the changed job is committed, and the attempt comes to what that comes to. -/
theorem run_attempt_commit {text : String} {job : ScanJob} {w' : σ} {reply : Outcome Bool}
    (hwatch : handle (.watch (s.keyFor id)) w = (.value mark, w))
    (hread : handle (.readWatched (s.keyFor id)) w = (.value (some text), w))
    (hdecode : ScanJob.decode text = .ok job) (hfault : (change job).report.bind ScanReport.fault? = none)
    (hcommit : handle (.commit (s.keyFor id) mark (change job).toJson.render s.ttl.wholeSeconds) w =
      (reply, w')) :
    (s.attempt op id change none).run handle write w = (Attempt.ofReply (change job) reply, w') := by
  simp only [attempt, bind, Program.andWith, Program.unlessCrossed, Program.watch, Program.readWatched,
    Program.commit, Program.andThen, Program.run, hwatch, hread, decode_ok_iff.2 hdecode, Program.ofExcept,
    encode_of_fault? hfault, Option.getD_none, hcommit]
  rcases reply with (_ | _) | (_ | (_ | _ | _ | ⟨_ | _, _⟩ | _) | _) | _ <;> rfl

/-! ## Within a time limit -/

/-- In a world whose timers do not run out, the limit of an operation that ends by itself makes no difference. -/
theorem run_call {α : Type} {p : Program α} {o : Outcome α} {w' : σ} {timeout : Option Number}
    (hstart : ∀ limit w, handle (.startTimer limit) w = (.value (0 : Nat), w))
    (hstop : ∀ w, handle .stopTimer w = (.value (), w)) (htime : s.HasTime timeout)
    (hp : p.run handle write w = (o, w')) (ho : o.OfStore) :
    (s.call op id timeout p).run handle write w = (o, w') := by
  unfold call
  cases hlimit : timeout.or s.operationTimeout with
  | none =>
    dsimp only
    rw [Program.run_andThen, hp]
    rcases o with _ | (_ | _ | _) | _
    · rfl
    · rfl
    all_goals cases ho
  | some limit =>
    dsimp only
    rw [if_neg (by simp [htime limit hlimit])]
    simp only [bind, Program.andWith, Program.startTimer, Program.stopTimer, Program.andThen, Program.run, hstart]
    rw [Program.run_andThen, hp]
    simp only [Program.run, hstop]
    rcases o with _ | (_ | _ | _) | _
    · rfl
    · rfl
    all_goals cases ho

end

end JobStore

end ScanAdapter
