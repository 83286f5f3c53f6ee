import ScanAdapter.Validation.Summary
import ScanAdapter.Json.Writer

/-!
# Failures

What can go wrong around the job store: faults of the server, of the stored data and of a caller's scan,
and the store's own errors, which say what was being done to which job.

| here | there |
| --- | --- |
| `ErrorKind`, `StoreError` | `ErrorKind`, `JobStoreError` with its subclasses |
| `ErrorKind.words`, `ErrorKind.detail` | the message of an error that is given none |
| `StoreError.text` | the text of a `JobStoreError` |
| `Operation.name` | `operation` |
-/
namespace ScanAdapter

/-- The kinds of faults that the server and the connection to it have. -/
inductive ServerFault
  | general
  | connection
  | timeLimit
  | response
  | busyLoading
  | readOnly
  | data
  | authentication
  /-- A watched key was changed. -/
  | watch
  deriving DecidableEq, Repr

/-- Other kinds of faults. -/
inductive OtherFault
  | timeLimit
  | system
  | runtime
  | value
  | key
  /-- A place in a list at which there is nothing. -/
  | index
  /-- The task was cancelled. This is no fault of the work itself, and nobody makes a record of it. -/
  | cancelled
  deriving DecidableEq, Repr

inductive Fault
  | refused (r : Refusal)
  | unwritable (f : Json.WriteFault)
  | unreadable (f : Text.Utf8Fault)
  | server (kind : ServerFault) (message : String)
  | other (kind : OtherFault) (message : String)
  deriving Repr

/-- The message of a fault; that of a missing key is the key as a quoted text. -/
def Fault.text : Fault → String
  | refused r => r.text
  | unwritable f => f.message
  | unreadable f => f.message
  | server _ message => message
  | other .key message => Text.quoted message
  | other _ message => message

/-! ## Errors of the store -/

/-- What is done to a job. -/
inductive Operation
  | create
  | get
  | updateStatus
  | updateReport
  deriving DecidableEq, Repr

def Operation.name : Operation → String
  | create => "create"
  | get => "get"
  | updateStatus => "update_status"
  | updateReport => "update_report"

inductive ErrorKind
  | conflict
  | notFound
  | storage
  | corruption
  | deadlineExceeded
  deriving DecidableEq, Repr

def ErrorKind.name : ErrorKind → String
  | conflict => "conflict"
  | notFound => "not_found"
  | storage => "storage"
  | corruption => "corruption"
  | deadlineExceeded => "deadline_exceeded"

/-- The name in words. -/
def ErrorKind.words : ErrorKind → String
  | conflict => "conflict"
  | notFound => "not found"
  | storage => "storage"
  | corruption => "corruption"
  | deadlineExceeded => "deadline exceeded"

/-- An error of the store, and the fault behind it if there is one. -/
structure StoreError where
  kind : ErrorKind
  operation : Operation
  jobId : String
  detail : String
  cause : Option Fault
  deriving Repr

/-- The detail of an error of this kind, given the message of what caused it: an empty one says nothing, and
the kind stands in its place. -/
def ErrorKind.detail (kind : ErrorKind) (message : String) : String :=
  if message.isEmpty then kind.words else message

def StoreError.text (e : StoreError) : String :=
  s!"{e.operation.name} scan job {e.jobId}: {e.detail}"

inductive Failure
  | store (e : StoreError)
  | fault (f : Fault)
  /-- A timer ran out, and the work that it limits was broken off. Only who started the timer takes this up. -/
  | overdue (timer : Nat)
  deriving Repr

namespace Failure

def text : Failure → String
  | store e => e.text
  | fault f => f.text
  | overdue _ => ""

/-- The work was broken off from outside. -/
def isCancellation : Failure → Bool
  | fault (.other .cancelled _) | overdue _ => true
  | _ => false

end Failure

/-- How an action ends: with a value, with a failure, or never. -/
inductive Outcome (α : Type)
  | value (a : α)
  | failed (f : Failure)
  | silent
  deriving Repr

end ScanAdapter
