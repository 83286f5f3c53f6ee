import ScanAdapter.Scenario.World

/-!
# Running a scenario

Steps are carried out one after another, each with an answer and the lines that it logged. Steps may hold
other steps, and planned actions may hold steps too; how deep they nest is bounded by how many there are.
-/
namespace ScanAdapter

/-- What stays the same through a scenario. -/
structure Stage where
  service : Service
  clock : Moment
  deriving Repr

namespace Stage

/-- Data that a model must accept before a step can go on. -/
def given {α : Type} (model : String) (read : Json → Validated α) (v : Json) : Except Failure α :=
  (Refusal.ofValue model read v).mapError fun r => .fault (.refused r)

/-- The status that a value names. -/
def statusNamed (v : Json) : Except Failure JobStatus :=
  match JobStatus.read v with
  | .accepted status => .ok status
  | .refused _ => .error (.fault (.other .value s!"{v.literal} is not a valid ScanJobStatus"))

/-- What a scan is about and what it finds. -/
def findings (artifact : Json) (vulnerabilities : List Json) :
    Except Failure (Artifact × List Trivy.Vulnerability) := do
  let artifact ← given "Artifact" Artifact.read artifact
  let vs ← vulnerabilities.mapM (given "TrivyVulnerability" (Trivy.Vulnerability.read .value))
  .ok (artifact, vs)

/-- A report whose first item holds a value that cannot be written. A report without items has no place for
such a value. -/
def poisoned (r : ScanReport) : Except Failure ScanReport :=
  match r.vulnerabilities with
  | [] => .error (.fault (.other .index "list index out of range"))
  | i :: is =>
    let attributes := Entries.put "poison" (.foreign "object") i.vendorAttributes
    .ok { r with vulnerabilities := { i with vendorAttributes := attributes } :: is }

/-- What a step asks of the store and the service. Steps of other kinds ask nothing. -/
def program (stage : Stage) : Step → Program Result
  | .create job timeout => do
    let job ← .ofResult (given "ScanJob" (ScanJob.read .value) job)
    stage.service.store.create job timeout
    pure .nothing
  | .get id timeout => do
    match ← stage.service.store.get id timeout with
    | some job => pure (.job job)
    | none => pure .nothing
  | .updateStatus id status error timeout => do
    let status ← .ofResult (statusNamed status)
    .job <$> stage.service.store.updateStatus id status error timeout
  | .updateReport id report poison timeout => do
    let report ← .ofResult (given "ScanReport" (ScanReport.read .value) report)
    let report ← .ofResult (if poison then poisoned report else .ok report)
    .job <$> stage.service.store.updateReport id report timeout
  | .submit id => .job <$> stage.service.submit id
  | .getReport id => do
    match ← stage.service.getReport id with
    | some r => pure (.summary r)
    | none => pure .nothing
  | .keyFor id => pure (.text (stage.service.store.keyFor id))
  | _ => pure .nothing

/-- Carry out a command of another client. -/
def direct (s : Server) : DirectCommand → Except Fault Result × Server
  | .get key => ((s.bytes key).map fun found => (found.map Result.bytes).getD .nothing, s)
  | .set key bytes seconds =>
    let (r, s) := s.set key bytes seconds
    (r.map fun _ => .nothing, s)
  | .delete key =>
    let (n, s) := s.delete key
    (.ok (.number n), s)
  | .push key items =>
    let (r, s) := s.push key items
    (r.map fun n => .number n, s)
  | .expire key seconds =>
    let (r, s) := s.expire key seconds
    (r.map fun b => .flag b, s)
  | .timeLeft key => (.ok (.number (s.timeLeft key)), s)
  | .keys => (.ok (.texts s.keys), s)

/-- What a hanging action comes to. Where the step is to be cancelled it is cancelled there and then. -/
def hang {α : Type} (cancelling : Bool) (w : World) : Outcome α × World :=
  if cancelling then (.failed (.fault (.other .cancelled "")), w) else w.await

/-- How a scan ends. -/
def scanEnd (cancelling : Bool) (vulnerabilities : List Trivy.Vulnerability) (ending : ScanEnd) (w : World) :
    Outcome (List Trivy.Vulnerability) × World :=
  match ending with
  | .returns => (.value vulnerabilities, w)
  | .hangs => hang cancelling w
  | .raises f => (.failed (.fault f), w)

/-- A scan: its steps, then its end. -/
def scan (carryOut : Step → World → Outcome Result × World) (during : List Step)
    (finish : World → Outcome (List Trivy.Vulnerability) × World) (w : World) :
    Outcome (List Trivy.Vulnerability) × World :=
  match World.inTurn carryOut during w with
  | (.value _, w) => finish w
  | (.failed f, w) => (.failed f, w)
  | (.silent, w) => (.silent, w)

/-- Carry out a step. `fuel` bounds how deep steps nest; `cancelling` tells whether a step that hangs is
to be cancelled. -/
def carryOut (stage : Stage) : (fuel : Nat) → (cancelling : Bool) → Step → World → Outcome Result × World
  | 0, _, _, w => (.silent, w)
  | fuel + 1, cancelling, step, w =>
    let nested := stage.carryOut fuel cancelling
    let meet := World.meet nested (hang cancelling)
    let perform := fun (scan : World → Outcome (List Trivy.Vulnerability) × World) (p : Program Result) =>
      p.run (World.answer meet stage.clock scan) World.write w
    match step with
    | .cancel inner => stage.carryOut fuel true inner w
    | .advance seconds => (.value .nothing, { w with server := w.server.advance seconds })
    | .plan point actions =>
      (.value .nothing, { w with planned := w.planned ++ actions.map fun a => (point, a) })
    | .direct command =>
      let (r, server) := direct w.server command
      (.ofExcept r, { w with server })
    | .run id artifact vulnerabilities during ending =>
      match findings artifact vulnerabilities with
      | .error f => (.failed f, w)
      | .ok (artifact, vs) =>
        perform (scan nested during (scanEnd cancelling vs ending))
          (.report <$> stage.service.run id artifact)
    | step => perform (fun w => (.silent, w)) (stage.program step)

/-- What each step answers, and the lines that it logged. -/
def answers (stage : Stage) (fuel : Nat) : List Step → World → List (Outcome Result × List LogLine)
  | [], _ => []
  | step :: steps, w =>
    match stage.carryOut fuel false step { w with shown := [] } with
    | (o, w) => (o, w.shown.reverse) :: answers stage fuel steps w

/-- The answers of a whole scenario, begun on an empty server. No step is carried out twice, so steps nest
no deeper than there are steps. -/
def runAll (stage : Stage) (logger : Logger) (steps : List Step) : List (Outcome Result × List LogLine) :=
  stage.answers (sizeOfSteps steps + 1) steps (.fresh logger)

end Stage

end ScanAdapter
