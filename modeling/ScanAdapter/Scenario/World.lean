import ScanAdapter.Scenario.Step
import ScanAdapter.Store.Server

/-!
# The world of a scenario

The server, the actions that are planned for its requests, the timers that run, and the log. A request first
meets the action that is planned for it, if there is one, and then takes effect on the server. Nothing takes
time but an action that hangs, and that goes on until a timer runs out.
-/
namespace ScanAdapter

structure World where
  server : Server
  /-- The planned actions in the order in which they were planned. -/
  planned : List (Point × Action)
  logger : Logger
  /-- The lines that were shown, the last first. -/
  shown : List LogLine
  /-- The seconds that were spent on actions that hung. -/
  elapsed : Rat
  /-- When the timers that run are due, the last started first; one with an infinite limit never is. -/
  timers : List (Option Rat)

/-- A number of seconds, if it is finite. -/
def Number.seconds? : Number → Option Rat
  | .int n => some n
  | .float (.finite x) =>
    let (num, den) := x.fraction
    some (mkRat (if x.negative then -num else num) den)
  | .float _ => none

namespace World

def fresh (logger : Logger) : World := ⟨.empty, [], logger, [], 0, []⟩

def write (line : LogLine) (w : World) : World :=
  if w.logger.shows line then { w with shown := line :: w.shown } else w

/-- The first pair with the given first part, and the others. -/
def takeFirst {α β : Type} [DecidableEq α] (a : α) : List (α × β) → Option (β × List (α × β))
  | [] => none
  | (x, b) :: rest =>
    if x = a then some (b, rest) else (takeFirst a rest).map fun (c, others) => (c, (x, b) :: others)

/-- The next action that is planned for a kind of request. -/
def takeAction (w : World) (p : Point) : Option Action × World :=
  match takeFirst p w.planned with
  | none => (none, w)
  | some (a, others) => (some a, { w with planned := others })

/-- Carry out steps until one of them has no value. -/
def inTurn (carryOut : Step → World → Outcome Result × World) : List Step → World → Outcome Unit × World
  | [], w => (.value (), w)
  | s :: ss, w =>
    match carryOut s w with
    | (.value _, w) => inTurn carryOut ss w
    | (.failed f, w) => (.failed f, w)
    | (.silent, w) => (.silent, w)

/-- Meet the action that is planned for a kind of request; `hang` is how an action that hangs ends. -/
def meet (carryOut : Step → World → Outcome Result × World) (hang : World → Outcome Unit × World) (p : Point)
    (w : World) : Outcome Unit × World :=
  match w.takeAction p with
  | (none, w) => (.value (), w)
  | (some .pass, w) => (.value (), w)
  | (some (.fail f), w) => (.failed (.fault f), w)
  | (some .hang, w) => hang w
  | (some (.steps ss), w) => inTurn carryOut ss w

/-- Make a request to the server, after what is planned for it was met. -/
def serve (met : Outcome Unit × World) (q : Request) : Outcome q.Reply × World :=
  match met with
  | (.value _, w) =>
    let (o, server) := w.server.answer q
    (o, { w with server })
  | (.failed f, w) => (.failed f, w)
  | (.silent, w) => (.silent, w)

/-! ## Timers -/

/-- Start a timer. It is named by the number of those that run already. -/
def startTimer (w : World) (limit : Number) : Nat × World :=
  (w.timers.length, { w with timers := limit.seconds?.map (w.elapsed + ·) :: w.timers })

def stopTimer (w : World) : World := { w with timers := w.timers.drop 1 }

/-- Timers that are due within this time of one another run out together. -/
def tolerance : Rat := mkRat 1 1000000000

/-- The earliest of some times, if there are any. -/
def earliest? : List Rat → Option Rat
  | [] => none
  | t :: ts =>
    match earliest? ts with
    | some u => some (if t < u then t else u)
    | none => some t

/-- Wait in vain, until the timer that is due first runs out. Of several that run out together the one that
was started first counts. Without a timer the wait has no end. -/
def await {α : Type} (w : World) : Outcome α × World :=
  match w.timers with
  | [] => (.silent, w)
  | timers =>
    match earliest? (timers.filterMap id) with
    | none => (.failed (.overdue 0), w)
    | some due =>
      let timer := timers.reverse.findIdx fun t => t.any (· < due + tolerance)
      (.failed (.overdue timer), { w with elapsed := due })

/-! ## Answers -/

/-- What a request of a program is answered. -/
def answer (meet : Point → World → Outcome Unit × World) (clock : Moment)
    (scan : World → Outcome (List Trivy.Vulnerability) × World) :
    (q : Request) → World → Outcome q.Reply × World
  | .setIfAbsent key text seconds, w => serve (meet .create w) (.setIfAbsent key text seconds)
  | .read key, w => serve (meet .get w) (.read key)
  | .watch key, w => serve (meet .watch w) (.watch key)
  | .readWatched key, w => serve (meet .readWatched w) (.readWatched key)
  | .commit key mark text seconds, w => serve (meet .commit w) (.commit key mark text seconds)
  | .currentTime, w => (.value clock, w)
  | .startTimer limit, w =>
    let (timer, w) := w.startTimer limit
    (.value timer, w)
  | .stopTimer, w => (.value (), w.stopTimer)
  | .scan, w => scan w

end World

end ScanAdapter
