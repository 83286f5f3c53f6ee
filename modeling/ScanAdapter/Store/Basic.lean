import ScanAdapter.Store.Program
import ScanAdapter.Job

/-!
# The job store

Jobs are kept on the server under a key of their own, for a limited time that every write begins anew.
There is no deletion. An update reads a job, changes it and writes it back, and does so once more when the
job was changed by somebody else in between.

| here | there |
| --- | --- |
| `JobStore` | `RedisJobStore`; `storeNamespace` is its `namespace`, the other fields have its names |
| `keyFor`, `encode`, `decode` | `key_for`, `_encode`, `_decode` |
| `create`, `get` | `create`, `get` |
| `updateStatus`, `updateReport` | `update_status`, `update_report` |
| `attempt`, `attempts` | a round of the loop of `_update`, the loop |
| `call`, `inTime`, `classify` | `_call`, its `wait_for`, its handlers |
-/
namespace ScanAdapter

/-- How long a job is kept: a span, or a plain number of seconds. -/
inductive Ttl
  | span (d : Duration)
  | seconds (n : Int)
  deriving DecidableEq, Repr

namespace Ttl

/-- What the server is told. -/
def wholeSeconds : Ttl → Int
  | span d => d.wholeSeconds
  | seconds n => n

def text : Ttl → String
  | span d => d.text
  | seconds n => String.ofList (Text.integer n)

end Ttl

structure JobStore where
  storeNamespace : String
  ttl : Ttl
  /-- The time limit of an operation that is given none of its own. -/
  operationTimeout : Option Number := none
  /-- How often an update is tried. -/
  maxUpdateRetries : Int := 5
  deriving DecidableEq, Repr

namespace JobStore

def keyFor (s : JobStore) (id : String) : String := s!"{s.storeNamespace}:scan-job:{id}"

def debug (id message : String) : LogLine := ⟨.debug, .jobStore, s!"[job_id={id}] {message}"⟩

/-- What a job is, where it is, and for how long, in a line of the log. -/
def whereabouts (s : JobStore) (id : String) (job : ScanJob) : String :=
  s!"status={job.status.text} key={s.keyFor id} expire={s.ttl.text}"

/-! ## Errors -/

def encode (op : Operation) (job : ScanJob) : Except StoreError String :=
  match job.encode with
  | .ok text => .ok text
  | .error f => .error ⟨.storage, op, job.id, s!"marshalling scan job: {f.message}", some (.unwritable f)⟩

def decode (op : Operation) (id text : String) : Except StoreError ScanJob :=
  match ScanJob.decode text with
  | .ok job => .ok job
  | .error r => .error ⟨.corruption, op, id, s!"unmarshalling scan job: {r.text}", some (.refused r)⟩

def notFound (op : Operation) (id : String) : StoreError := ⟨.notFound, op, id, ErrorKind.words .notFound, none⟩

def expired (op : Operation) (id : String) : StoreError :=
  ⟨.notFound, op, id, "scan job expired during update", none⟩

def taken (id : String) : StoreError := ⟨.conflict, .create, id, "scan job already exists", none⟩

def gaveUp (s : JobStore) (op : Operation) (id : String) : StoreError :=
  let attempts := String.ofList (Text.integer s.maxUpdateRetries)
  ⟨.conflict, op, id, s!"scan job kept changing, gave up after {attempts} attempts", none⟩

/-- The text of a time limit. -/
def limitText (limit : Option Number) : String := (limit.map Number.text).getD "None"

def tooLate (op : Operation) (id : String) (limit : Option Number) (cause : Fault) : StoreError :=
  ⟨.deadlineExceeded, op, id, s!"no response within {limitText limit}s", some cause⟩

/-- A fault of the server or of what it keeps becomes an error of the store; any other stays as it is. -/
def classify (op : Operation) (id : String) (limit : Option Number) : Failure → Failure
  | .store e => .store e
  | .overdue timer => .overdue timer
  | .fault f =>
    match f with
    | .other .timeLimit _ => .store (tooLate op id limit f)
    | .unreadable u =>
      .store ⟨.corruption, op, id, s!"stored value is not valid UTF-8: {u.message}", some f⟩
    | .server _ message => .store ⟨.storage, op, id, ErrorKind.detail .storage message, some f⟩
    | f => .fault f

/-- The deadline that the store itself sets. -/
def deadline (op : Operation) (id : String) (limit : Number) : Failure :=
  .store (tooLate op id (some limit) (.other .timeLimit ""))

/-- What an operation comes to once the timer is stopped that limited it. The failure that this timer makes is
the deadline; the failure of another timer belongs to whoever started that one. -/
def inTime {α : Type} (op : Operation) (id : String) (limit : Number) (timer : Nat) :
    Outcome α → Program α
  | .value a => .done (.value a)
  | .failed (.overdue t) => .fail (if t = timer then deadline op id limit else .overdue t)
  | .failed f => .fail (classify op id (some limit) f)
  | .silent => .fail (deadline op id limit)

/-- Carry out an operation within a time limit. With a limit of zero or less it is not even begun; without
a limit it may be waited for in vain. -/
def call {α : Type} (s : JobStore) (op : Operation) (id : String) (timeout : Option Number)
    (p : Program α) : Program α :=
  match timeout.or s.operationTimeout with
  | none =>
    p.andThen fun
      | .value a => .done (.value a)
      | .failed f => .fail (classify op id none f)
      | .silent => .done .silent
  | some limit =>
    if limit.isAtMostZero then .fail (deadline op id limit)
    else do
      let timer ← Program.startTimer limit
      p.andThen fun o => do
        Program.stopTimer
        inTime op id limit timer o

/-! ## Operations -/

/-- Keep a new job. -/
def create (s : JobStore) (job : ScanJob) (timeout : Option Number) : Program Unit := do
  let text ← .ofExcept (encode .create job)
  .log (debug job.id s!"Saving scan job. {s.whereabouts job.id job}")
  let created ← s.call .create job.id timeout
    (.setIfAbsent (s.keyFor job.id) text s.ttl.wholeSeconds)
  if created then pure () else .fail (.store (taken job.id))

/-- The job, or nothing if there is none. -/
def get (s : JobStore) (id : String) (timeout : Option Number) : Program (Option ScanJob) := do
  match ← s.call .get id timeout (.read (s.keyFor id)) with
  | none => pure none
  | some text => some <$> .ofExcept (decode .get id text)

/-- What an attempt to change a job comes to. -/
inductive Attempt
  | written (job : ScanJob)
  /-- The job was no longer there to be written. -/
  | gone
  /-- Somebody else changed the job in between. A watch may be in force still, from the given mark on. -/
  | crossed (watched : Option Nat)
  deriving Repr

/-- One attempt to change a job. A key that is watched already stays watched from its first mark on; the end of
the attempt, whether it was crossed or not, ends the watch, and a fault before the end leaves it in force. -/
def attempt (s : JobStore) (op : Operation) (id : String) (change : ScanJob → ScanJob)
    (watched : Option Nat) : Program Attempt := do
  let key := s.keyFor id
  match ← (Program.watch key).unlessCrossed with
  | none => pure (.crossed watched)
  | some mark =>
    let mark := watched.getD mark
    match ← (Program.readWatched key).unlessCrossed with
    | none => pure (.crossed (some mark))
    | some none => .fail (.store (notFound op id))
    | some (some before) =>
      let job ← .ofExcept (decode op id before)
      let job := change job
      let after ← .ofExcept (encode op job)
      match ← (Program.commit key mark after s.ttl.wholeSeconds).unlessCrossed with
      | none => pure (.crossed none)
      | some true => pure (.written job)
      | some false => pure .gone

/-- Attempts until one is not crossed by a change, `left` at most; `number` is the number of the next. -/
def attempts (s : JobStore) (op : Operation) (id : String) (change : ScanJob → ScanJob) :
    (left number : Nat) → (watched : Option Nat) → Program ScanJob
  | 0, _, _ => .fail (.store (s.gaveUp op id))
  | left + 1, number, watched => do
    match ← s.attempt op id change watched with
    | .written job => .note (debug id s!"Updated scan job. {s.whereabouts id job}") (pure job)
    | .gone => .fail (.store (expired op id))
    | .crossed watched =>
      .note (debug id s!"Scan job changed during {op.name}, retrying. attempt={number}")
        (attempts s op id change left (number + 1) watched)

def update (s : JobStore) (op : Operation) (id : String) (timeout : Option Number)
    (change : ScanJob → ScanJob) : Program ScanJob :=
  s.call op id timeout (s.attempts op id change s.maxUpdateRetries.toNat 1 none)

/-- Move a job to a status, and record an error if there is one. -/
def updateStatus (s : JobStore) (id : String) (status : JobStatus) (error : Option String)
    (timeout : Option Number) : Program ScanJob := do
  .log (debug id s!"Updating status for scan job. new_status={status.text}")
  s.update .updateStatus id timeout fun job => { job with status, error := error.or job.error }

/-- Give a job its report. -/
def updateReport (s : JobStore) (id : String) (report : ScanReport) (timeout : Option Number) :
    Program ScanJob := do
  .log (debug id "Updating report for scan job.")
  s.update .updateReport id timeout fun job => { job with report := some report }

end JobStore

end ScanAdapter
