import ScanAdapter.Store.Error
import ScanAdapter.Trivy.Vulnerability
import ScanAdapter.Log

/-!
# Programs

What the adapter does is a sequence of requests to the world around it: commands of the server, each of
which takes effect at once and as a whole, the clock, timers, and the scan that a caller supplies. A program
says which request comes first and how it goes on after each outcome; between two requests anything may happen
to the world.

| here | there |
| --- | --- |
| `setIfAbsent`, `read` | `client.set` with `nx` and `ex`, `client.get` |
| `watch`, `readWatched` | `pipe.watch`, `pipe.get` |
| `commit` | `pipe.execute` of one `set` with `xx` and `ex` |
| `startTimer`, `stopTimer` | entering and leaving `wait_for` |
| `currentTime` | `Clock.now` |
| `scan` | the `scan` that `ScanService.run` is given |
-/
namespace ScanAdapter

inductive Request
  /-- Set a key that is not taken, for so many seconds. The reply tells whether it was set. -/
  | setIfAbsent (key text : String) (seconds : Int)
  | read (key : String)
  /-- Begin to watch a key. The reply marks how far its changes have come. -/
  | watch (key : String)
  /-- Read a key that is watched. -/
  | readWatched (key : String)
  /-- Set a key that is taken, for so many seconds, unless it was changed since the mark. The reply tells
  whether it was set. -/
  | commit (key : String) (mark : Nat) (text : String) (seconds : Int)
  | currentTime
  /-- Begin to limit the time that is spent, to so many seconds. The reply names the timer. Timers are stopped
  in the reverse order of their starts. -/
  | startTimer (seconds : Number)
  /-- Stop the timer that was started last. -/
  | stopTimer
  /-- Carry out the scan. -/
  | scan
  deriving DecidableEq, Repr

def Request.Reply : Request → Type
  | setIfAbsent _ _ _ => Bool
  | read _ => Option String
  | watch _ => Nat
  | readWatched _ => Option String
  | commit _ _ _ _ => Bool
  | currentTime => Moment
  | startTimer _ => Nat
  | stopTimer => Unit
  | scan => List Trivy.Vulnerability

inductive Program (α : Type)
  | done (o : Outcome α)
  /-- Write a line to the log. -/
  | note (line : LogLine) (next : Program α)
  | ask (q : Request) (next : Outcome q.Reply → Program α)

namespace Program

variable {α β : Type}

/-- Go on after the end of a program, whatever its outcome. -/
def andThen (p : Program α) (next : Outcome α → Program β) : Program β :=
  match p with
  | done o => next o
  | note line p => note line (p.andThen next)
  | ask q p => ask q fun reply => (p reply).andThen next

/-- Go on with the value of a program. -/
def andWith (p : Program α) (next : α → Program β) : Program β :=
  p.andThen fun
    | .value a => next a
    | .failed f => done (.failed f)
    | .silent => done .silent

def fail (f : Failure) : Program α := done (.failed f)

/-- A value, or the failure that took its place. -/
def ofResult : Except Failure α → Program α
  | .ok a => done (.value a)
  | .error f => fail f

/-- A value, or the store's error that took its place. -/
def ofExcept : Except StoreError α → Program α
  | .ok a => done (.value a)
  | .error e => fail (.store e)

instance : Monad Program where
  pure a := done (.value a)
  bind := andWith

theorem andThen_assoc {γ : Type} (p : Program α) (f : Outcome α → Program β)
    (g : Outcome β → Program γ) : (p.andThen f).andThen g = p.andThen fun o => (f o).andThen g := by
  induction p with
  | done o => rfl
  | note line p ih => simp [andThen, ih]
  | ask q p ih => simp [andThen, ih]

/-! ## Single requests -/

def setIfAbsent (key text : String) (seconds : Int) : Program Bool := ask (.setIfAbsent key text seconds) done

def read (key : String) : Program (Option String) := ask (.read key) done

def watch (key : String) : Program Nat := ask (.watch key) done

def readWatched (key : String) : Program (Option String) := ask (.readWatched key) done

def commit (key : String) (mark : Nat) (text : String) (seconds : Int) : Program Bool :=
  ask (.commit key mark text seconds) done

def currentTime : Program Moment := ask .currentTime done

def startTimer (seconds : Number) : Program Nat := ask (.startTimer seconds) done

def stopTimer : Program Unit := ask .stopTimer done

def scan : Program (List Trivy.Vulnerability) := ask .scan done

/-- Write a line. -/
def log (line : LogLine) : Program Unit := note line (done (.value ()))

/-- Write several lines. -/
def logAll : List LogLine → Program Unit
  | [] => done (.value ())
  | line :: lines => note line (logAll lines)

/-- The value of a program, or nothing where a watched key turned out to be changed. -/
def unlessCrossed (p : Program α) : Program (Option α) :=
  p.andThen fun
    | .value a => done (.value (some a))
    | .failed (.fault (.server .watch _)) => done (.value none)
    | .failed f => fail f
    | .silent => done .silent

/-! ## Running -/

/-- Run a program in a world: `handle` answers requests, `write` takes the lines of the log. -/
def run {σ : Type} (handle : (q : Request) → σ → Outcome q.Reply × σ) (write : LogLine → σ → σ) :
    Program α → σ → Outcome α × σ
  | done o, w => (o, w)
  | note line p, w => run handle write p (write line w)
  | ask q p, w =>
    match handle q w with
    | (reply, w) => run handle write (p reply) w

theorem run_andThen {σ : Type} (handle : (q : Request) → σ → Outcome q.Reply × σ)
    (write : LogLine → σ → σ) (p : Program α) (next : Outcome α → Program β) (w : σ) :
    run handle write (p.andThen next) w =
      run handle write (next (run handle write p w).1) (run handle write p w).2 := by
  induction p generalizing w with
  | done o => rfl
  | note line p ih => exact ih (write line w)
  | ask q p ih => exact ih (handle q w).1 (handle q w).2

section

variable {σ : Type} {handle : (q : Request) → σ → Outcome q.Reply × σ} {write : LogLine → σ → σ} {w w' : σ}

theorem run_bind_value {p : Program α} {a : α} (next : α → Program β) (h : run handle write p w = (.value a, w')) :
    run handle write (p >>= next) w = run handle write (next a) w' := by
  change run handle write (p.andThen _) w = _
  rw [run_andThen, h]

theorem run_bind_failed {p : Program α} {f : Failure} (next : α → Program β)
    (h : run handle write p w = (.failed f, w')) : run handle write (p >>= next) w = (.failed f, w') := by
  change run handle write (p.andThen _) w = _
  rw [run_andThen, h]
  rfl

end

end Program

end ScanAdapter
