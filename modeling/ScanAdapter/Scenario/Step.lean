import ScanAdapter.Service
import ScanAdapter.Store.Server

/-!
# Scenarios

A scenario is a row of steps: calls of the store and of the service, commands of another client, the
passing of time, and plans for what is to happen when a call comes to the server. A plan is a row of
actions for one kind of request; each such request takes the next of them and meets it before it is
carried out.
-/
namespace ScanAdapter

/-- The requests that plans are made for. -/
inductive Point
  | create
  | get
  | watch
  | readWatched
  | commit
  deriving DecidableEq, Repr

/-- A command of another client. -/
inductive DirectCommand
  | get (key : String)
  | set (key : String) (bytes : List UInt8) (seconds : Option Int)
  | delete (key : String)
  | push (key : String) (items : List String)
  | expire (key : String) (seconds : Int)
  | timeLeft (key : String)
  | keys
  deriving DecidableEq, Repr

/-- How a scan ends after its steps. -/
inductive ScanEnd
  | returns
  | hangs
  | raises (f : Fault)
  deriving Repr

mutual

inductive Step
  /-- Keep a job that is given as data. -/
  | create (job : Json) (timeout : Option Number)
  | get (id : String) (timeout : Option Number)
  | updateStatus (id : String) (status : Json) (error : Option String) (timeout : Option Number)
  /-- Give a job the report that is given as data; if it is poisoned, with a value that cannot be written. -/
  | updateReport (id : String) (report : Json) (poisoned : Bool) (timeout : Option Number)
  | submit (id : String)
  | getReport (id : String)
  /-- Run a job with a scan that goes through steps of its own before it ends. -/
  | run (id : String) (artifact : Json) (vulnerabilities : List Json) (during : List Step) (ending : ScanEnd)
  | keyFor (id : String)
  /-- Carry out a step and cancel it when it hangs. -/
  | cancel (step : Step)
  | advance (seconds : Int)
  | plan (point : Point) (actions : List Action)
  | direct (command : DirectCommand)

inductive Action
  | pass
  | fail (f : Fault)
  | hang
  | steps (ss : List Step)

end

/-! ## Size -/

mutual

/-- The number of steps and actions in a step, itself included. -/
def Step.size : Step → Nat
  | .run _ _ _ during _ => sizeOfSteps during + 1
  | .cancel step => step.size + 1
  | .plan _ actions => sizeOfActions actions + 1
  | _ => 1

def Action.size : Action → Nat
  | .steps ss => sizeOfSteps ss + 1
  | _ => 1

def sizeOfSteps : List Step → Nat
  | [] => 0
  | s :: ss => s.size + sizeOfSteps ss

def sizeOfActions : List Action → Nat
  | [] => 0
  | a :: as => a.size + sizeOfActions as

end

/-! ## Results -/

/-- What a step answers. -/
inductive Result
  | nothing
  | job (j : ScanJob)
  | report (r : ScanReport)
  /-- A report with its statistics. -/
  | summary (r : ScanReport)
  | text (s : String)
  | bytes (bs : List UInt8)
  | number (n : Int)
  | flag (b : Bool)
  | texts (ss : List String)
  deriving Repr

end ScanAdapter
