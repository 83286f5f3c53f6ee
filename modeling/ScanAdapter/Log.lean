import ScanAdapter.Text.Case
import ScanAdapter.Text.Quoted

/-!
# Logging

Lines of the log, and the set-up of the logger that decides which of them are shown. The set-up takes
hold once: a logger that has a handler is left as it is. The handler is added before the level is
looked at, so a set-up that fails on its level is not made good by a later one.

| here | there |
| --- | --- |
| `configure` | `configure_logging` |
| `formatLogLine` | its `format` |
-/
namespace ScanAdapter

inductive LogLevel
  | debug
  | info
  | warning
  | error
  | critical
  deriving DecidableEq, Repr

namespace LogLevel

def severity : LogLevel → Nat
  | debug => 10
  | info => 20
  | warning => 30
  | error => 40
  | critical => 50

def name : LogLevel → String
  | debug => "DEBUG"
  | info => "INFO"
  | warning => "WARNING"
  | error => "ERROR"
  | critical => "CRITICAL"

end LogLevel

/-- The part of the program that a line comes from. -/
inductive LogSource
  | jobStore
  | scanService
  | trivyAdapter
  | setUp
  deriving DecidableEq, Repr

def LogSource.name : LogSource → String
  | jobStore => "engine.job_store"
  | scanService => "engine.scan_service"
  | trivyAdapter => "tools.trivy_adapter"
  | setUp => "main"

structure LogLine where
  level : LogLevel
  source : LogSource
  message : String
  deriving DecidableEq, Repr

/-- The names by which a threshold can be asked for. -/
def thresholds : List (String × Nat) :=
  [("CRITICAL", 50), ("FATAL", 50), ("ERROR", 40), ("WARN", 30), ("WARNING", 30), ("INFO", 20),
    ("DEBUG", 10), ("NOTSET", 0)]

/-- The logger at the root of all others. -/
structure Logger where
  threshold : Nat
  handlers : Nat
  deriving DecidableEq, Repr

namespace Logger

/-- No handler, and warnings and worse. -/
def fresh : Logger := ⟨30, 0⟩

/-- Whether a line is shown. -/
def shows (l : Logger) (line : LogLine) : Bool := l.threshold ≤ line.level.severity

def unknownLevel (name : String) : String := s!"Unknown level: {Text.quoted name}"

/-- A logger that was given its threshold by name, in capitals. -/
def ofThreshold (name : String) : Except String Logger :=
  match thresholds.lookup name with
  | some threshold => .ok { fresh with threshold }
  | none => .error (unknownLevel name)

/-- Set the logger up for a level, unless it has been set up. On failure: the text of the error. -/
def configure (l : Logger) (level : String) : Logger × Option String :=
  if l.handlers ≠ 0 then (l, none)
  else
    let name := Text.upper level
    match thresholds.lookup name with
    | some threshold => (⟨threshold, 1⟩, none)
    | none => ({ l with handlers := 1 }, some (unknownLevel name))

/-- Set the logger up for one level after another: what each set-up leaves and ends with. -/
def configureAll (l : Logger) : List String → List (Logger × Option String)
  | [] => []
  | level :: levels =>
    let step := l.configure level
    step :: configureAll step.1 levels

end Logger

/-- A line as the handler writes it: time, level, name of the logger, message. -/
def formatLogLine (time level logger message : String) : String :=
  s!"{time} {level} {logger} {message}"

end ScanAdapter
