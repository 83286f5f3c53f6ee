import ScanAdapter.Proofs.Service.Lifecycle

/-!
# Errands

An errand is a program in which the calls on stores stand out: it can be seen in the midst of which call it is, and what
a call has come to. What clients of the store and of the service do are such errands (`Client.program_errand`), and an
errand goes its way as its program does, but for the moments at which it comes back from a call
(`Errand.Goes.program`, `Errand.exists_goes`). Any number of errands are run on one server (`Traffic`).
-/
namespace ScanAdapter

namespace Program

variable {α β γ : Type}

theorem andThen_done (p : Program α) : p.andThen .done = p := by
  induction p with
  | done o => rfl
  | note line p ih => rw [andThen, ih]
  | ask q p ih => rw [andThen, funext ih]

theorem map_bind (g : α → β) (p : Program α) (next : β → Program γ) :
    (g <$> p) >>= next = p >>= fun a => next (g a) := by
  change (p.andThen _).andThen _ = p.andThen _
  rw [andThen_assoc]
  congr 1
  funext o
  cases o <;> rfl

end Program

inductive Errand (α : Type)
  | done (o : Outcome α)
  | note (line : LogLine) (next : Errand α)
  | ask (q : Request) (next : Outcome q.Reply → Errand α)
  /-- In the midst of a call on a job, with what is left of the call. -/
  | amid (caller : Caller) (id : String) (left : Program Answer) (next : Outcome Answer → Errand α)

namespace Errand

variable {α β : Type}

/-- The program of an errand, in which calls do not stand out. -/
def program : Errand α → Program α
  | done o => .done o
  | note line e => .note line e.program
  | ask q next => .ask q fun o => (next o).program
  | amid _ _ left next => left.andThen fun o => (next o).program

/-- A program that makes no calls. -/
def ofProgram : Program α → Errand α
  | .done o => done o
  | .note line p => note line (ofProgram p)
  | .ask q next => ask q fun o => ofProgram (next o)

/-- A call, from its beginning. -/
def call (c : Caller) (id : String) : Errand Answer := amid c (c.call.on id) (c.program (c.call.on id)) done

def andThen (e : Errand α) (next : Outcome α → Errand β) : Errand β :=
  match e with
  | done o => next o
  | note line e => note line (e.andThen next)
  | ask q e => ask q fun o => (e o).andThen next
  | amid caller id left e => amid caller id left fun o => (e o).andThen next

instance : Monad Errand where
  pure a := done (.value a)
  bind e next := e.andThen fun
    | .value a => next a
    | .failed f => done (.failed f)
    | .silent => done .silent

theorem program_andThen (e : Errand α) (next : Outcome α → Errand β) :
    (e.andThen next).program = e.program.andThen fun o => (next o).program := by
  induction e with
  | done o => rfl
  | note line e ih => simp only [andThen, program, Program.andThen, ih]
  | ask q e ih => simp only [andThen, program, Program.andThen, ih]
  | amid caller id left e ih => simp only [andThen, program, Program.andThen_assoc, ih]

theorem program_bind (e : Errand α) (next : α → Errand β) :
    (e >>= next).program = e.program >>= fun a => (next a).program := by
  change (e.andThen _).program = e.program.andThen _
  rw [program_andThen]
  congr 1
  funext o
  cases o <;> rfl

theorem program_map (g : α → β) (e : Errand α) : (g <$> e).program = g <$> e.program := program_bind e _

@[simp] theorem program_ofProgram (p : Program α) : (ofProgram p).program = p := by
  induction p with
  | done o => rfl
  | note line p ih => rw [ofProgram, program, ih]
  | ask q p ih => rw [ofProgram, program, funext ih]

theorem program_call (c : Caller) (id : String) : (call c id).program = c.program (c.call.on id) :=
  Program.andThen_done _

end Errand

/-! ## The service -/

namespace Service

variable (s : Service) (id : String)

/-- Make a change of the job. -/
def changing (u : Update) : Errand Answer := .call ⟨s.store, .update u, none⟩ id

def submitting : Errand ScanJob := do
  let job := ScanJob.queued id
  let _ ← Errand.call ⟨s.store, .create job, none⟩ id
  .ofProgram (.log (line .info id "Submitted scan job."))
  pure job

def scanning (artifact : Artifact) : Errand ScanReport := do
  let vulnerabilities ← .ofProgram .scan
  let report ← .ofProgram (Trivy.transform s.scanner artifact vulnerabilities)
  let _ ← s.changing id (.attach report)
  let _ ← s.changing id (.moveTo .finished none)
  pure report

def recording (f : Failure) : Errand ScanReport := do
  .ofProgram (.log (line .error id s!"Scan job failed: {f.text}"))
  let _ ← s.changing id (.moveTo .failed (some f.text))
  .done (.failed f)

def running (artifact : Artifact) : Errand ScanReport := do
  let _ ← s.changing id (.moveTo .pending none)
  .ofProgram (.log (line .info id
    s!"Started scan job. repository={artifact.repository} digest={artifact.digest}"))
  (s.scanning id artifact).andThen fun
    | .value report =>
      let statistics := report.statistics.toJson.literal
      .note (line .info id s!"Completed scan job. stats={statistics}") (pure report)
    | .failed f => if f.isCancellation then .done (.failed f) else s.recording id f
    | .silent => .done .silent

def looking : Errand (Option ScanReport) := do
  let answer ← .call ⟨s.store, .get, none⟩ id
  match answer with
  | .found job => pure (job.bind (·.report))
  | _ => pure none

theorem program_changing (u : Update) : (s.changing id u).program = .updated <$> s.store.perform u id none :=
  Errand.program_call _ id

theorem program_submitting : (s.submitting id).program = s.submit id := by
  rw [submitting, Errand.program_bind, Errand.program_call]
  exact Program.map_bind _ (s.store.create (.queued id) none) _

theorem program_looking : (s.looking id).program = s.getReport id := by
  rw [looking, Errand.program_bind, Errand.program_call]
  exact Program.map_bind _ (s.store.get id none) _

theorem program_scanning (artifact : Artifact) : (s.scanning id artifact).program = s.scanAndRecord id artifact := by
  simp only [scanning, Errand.program_bind, Errand.program_ofProgram, program_changing, Program.map_bind]
  rfl

theorem program_recording (f : Failure) : (s.recording id f).program = s.recordFailure id f := by
  simp only [recording, Errand.program_bind, Errand.program_ofProgram, program_changing, Program.map_bind]
  rfl

theorem program_running (artifact : Artifact) : (s.running id artifact).program = s.run id artifact := by
  simp only [running, Errand.program_bind, Errand.program_ofProgram, Errand.program_andThen, program_changing,
    Program.map_bind, program_scanning]
  refine congrArg (s.store.updateStatus id .pending none none >>= ·) (funext fun _ => ?_)
  refine congrArg (_ >>= ·) (funext fun _ => congrArg (Program.andThen _) (funext fun o => ?_))
  cases o with
  | value report => rfl
  | silent => rfl
  | failed f =>
    by_cases hcancelled : f.isCancellation = true
    · simp only [if_pos hcancelled]
      rfl
    · simp only [if_neg hcancelled]
      exact program_recording s id f

end Service

/-! ## Clients -/

namespace Worker

def errand (w : Worker) (id : String) : Errand Product :=
  match w.task with
  | .submit => .submitted <$> w.service.submitting id
  | .run artifact => .ran <$> w.service.running id artifact
  | .getReport => .looked <$> w.service.looking id

theorem program_errand (w : Worker) (id : String) : (w.errand id).program = w.program id := by
  unfold errand program
  cases w.task with
  | submit => simp only [Errand.program_map, Service.program_submitting]
  | run artifact => simp only [Errand.program_map, Service.program_running]
  | getReport => simp only [Errand.program_map, Service.program_looking]

end Worker

/-- Whoever makes a call on a store, or has the service do something. -/
inductive Client
  | caller (c : Caller) (id : String)
  | worker (w : Worker) (id : String)
  deriving Repr

namespace Client

def store : Client → JobStore
  | caller c _ => c.store
  | worker w _ => w.service.store

/-- The job that the client is about. -/
def job : Client → String
  | caller c id => c.call.on id
  | worker _ id => id

/-- No object in the free-form data that the client brings repeats a name. -/
def NamesDiffer : Client → Prop
  | caller c _ => c.call.NamesDiffer
  | worker _ _ => True

def program : Client → Program (Answer ⊕ Product)
  | caller c id => .inl <$> c.program (c.call.on id)
  | worker w id => .inr <$> w.program id

def errand : Client → Errand (Answer ⊕ Product)
  | caller c id => .inl <$> .call c id
  | worker w id => .inr <$> w.errand id

/-- **The errand of a client is what the client does.** -/
theorem program_errand (client : Client) : client.errand.program = client.program := by
  cases client with
  | caller c id =>
    rw [errand, Errand.program_map, Errand.program_call]
    rfl
  | worker w id =>
    rw [errand, Errand.program_map, Worker.program_errand]
    rfl

end Client

/-! ## On a server -/

/-- The failure is no error of a store. -/
def Failure.IsForeign : Failure → Prop
  | .store _ => False
  | _ => True

/-- What may come of a request, and the server after that. A command is answered, or fails, whether or not it has taken
effect; whatever is no command may bring anything. -/
inductive Server.Gives (s : Server) (q : Request) (o : Outcome q.Reply) : Server → Prop
  | answered {s' : Server} (hq : q.isCommand = true) (h : s.answer q = (o, s')) : Gives s q o s'
  | brought (hq : q.isCommand = false) (h : q.MayBring o) : Gives s q o s
  | failed {f : Failure} (hq : q.isCommand = true) (hf : f.IsForeign) (h : o = .failed f) : Gives s q o s
  | lost {f : Failure} (hq : q.isCommand = true) (hf : f.IsForeign) (h : o = .failed f) : Gives s q o (s.answer q).2

/-- One step of a program on a server. -/
inductive Program.Goes {α : Type} (s : Server) : Program α → Program α → Server → Prop
  | note {line : LogLine} {next : Program α} : Goes s (.note line next) next s
  | ask {s' : Server} {q : Request} {next : Outcome q.Reply → Program α} {o : Outcome q.Reply} (h : s.Gives q o s') :
    Goes s (.ask q next) (next o) s'

/-- One step of an errand on a server: one of its program, or back from a call. -/
inductive Errand.Goes {α : Type} (s : Server) : Errand α → Errand α → Server → Prop
  | note {line : LogLine} {next : Errand α} : Goes s (.note line next) next s
  | ask {s' : Server} {q : Request} {next : Outcome q.Reply → Errand α} {o : Outcome q.Reply} (h : s.Gives q o s') :
    Goes s (.ask q next) (next o) s'
  | within {s' : Server} {caller : Caller} {id : String} {left left' : Program Answer}
    {next : Outcome Answer → Errand α} (h : left.Goes s left' s') : Goes s (.amid caller id left next) (.amid caller id left' next) s'
  | back {caller : Caller} {id : String} {o : Outcome Answer} {next : Outcome Answer → Errand α} :
    Goes s (.amid caller id (.done o) next) (next o) s

theorem Program.Goes.andThen {α β : Type} {s s' : Server} {p p' : Program α} (h : p.Goes s p' s')
    (next : Outcome α → Program β) : (p.andThen next).Goes s (p'.andThen next) s' := by
  cases h with
  | note => exact .note
  | ask h => exact .ask h

/-- A step of a program is one of a client among others. -/
theorem Program.Goes.step {ι α : Type} [DecidableEq ι] {c : Crowd ι α} {i : ι} {p : Program α} {server : Server}
    (h : (c.programs i).Goes c.server p server) :
    ∃ c', Crowd.Step c (.turn i) c' ∧ c'.server = server ∧ c'.programs = Function.update c.programs i p := by
  generalize hprogram : c.programs i = now at h
  cases h with
  | note => exact ⟨_, .note hprogram, rfl, rfl⟩
  | @ask _ q next o h =>
    cases h with
    | answered hq h =>
      have hstep := Crowd.Step.answer hprogram hq
      rw [Crowd.serve, h] at hstep
      exact ⟨_, hstep, rfl, rfl⟩
    | brought hq h => exact ⟨_, .bring hprogram hq h, rfl, rfl⟩
    | failed hq hf h =>
      subst h
      exact ⟨_, .fail hprogram hq _, rfl, rfl⟩
    | lost hq hf h =>
      subst h
      exact ⟨_, .lose hprogram hq _, rfl, rfl⟩

namespace Errand

variable {α : Type} {s s' : Server} {e e' : Errand α}

/-- A step of an errand is one of its program, or does nothing but come back from a call. -/
theorem Goes.program (h : e.Goes s e' s') :
    e.program.Goes s e'.program s' ∨ e'.program = e.program ∧ s' = s := by
  cases h with
  | note => exact .inl .note
  | ask h => exact .inl (.ask h)
  | within h => exact .inl (h.andThen _)
  | back => exact .inr ⟨rfl, rfl⟩

/-- What the program of an errand may do next the errand may do too, once it has come back from calls that are over. -/
theorem exists_goes {p : Program α} (h : e.program.Goes s p s') : ∃ e₁ e₂ : Errand α,
    Relation.ReflTransGen (fun e e' => e.Goes s e' s) e e₁ ∧ e₁.Goes s e₂ s' ∧ e₂.program = p := by
  induction e with
  | done o => cases h
  | note line e _ =>
    cases h
    exact ⟨_, e, .refl, .note, rfl⟩
  | ask q next _ =>
    cases h with
    | @ask _ _ _ o hgives => exact ⟨_, next o, .refl, .ask hgives, rfl⟩
  | amid caller id left next ih =>
    cases left with
    | done o =>
      obtain ⟨e₁, e₂, hback, hgoes⟩ := ih o h
      exact ⟨e₁, e₂, .head .back hback, hgoes⟩
    | note line left =>
      cases h
      exact ⟨_, .amid caller id left next, .refl, .within .note, rfl⟩
    | ask q left =>
      cases h with
      | @ask _ _ _ o hgives => exact ⟨_, .amid caller id (left o) next, .refl, .within (.ask hgives), rfl⟩

end Errand

/-- A server, and how far its clients have come with their errands. -/
structure Traffic (ι α : Type) where
  server : Server
  errands : ι → Errand α

namespace Traffic

variable {ι α : Type} [DecidableEq ι]

/-- An errand goes on, time passes, or a key vanishes. -/
inductive Step (t : Traffic ι α) : Traffic ι α → Prop
  | turn {i : ι} {e : Errand α} {server : Server} (h : (t.errands i).Goes t.server e server) :
    Step t ⟨server, Function.update t.errands i e⟩
  | tick (seconds : Nat) : Step t { t with server := t.server.advance seconds }
  | vanish (key : String) (noticed : Bool) : Step t { t with server := t.server.vanish key noticed }

/-- One traffic comes of another. -/
def Reaches : Traffic ι α → Traffic ι α → Prop := Relation.ReflTransGen Step

/-- The clients set out. -/
def start (server : Server) (clients : ι → Client) : Traffic ι (Answer ⊕ Product) :=
  ⟨server, fun i => (clients i).errand⟩

end Traffic

end ScanAdapter
