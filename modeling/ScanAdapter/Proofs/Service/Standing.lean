import ScanAdapter.Proofs.Service.Records
import ScanAdapter.Proofs.Store.Operation

/-!
# What a client of the service may do

A client submits a job, runs it or looks at it. To each update of a run belongs something that the run must have done
before it: the report comes after the job was moved to pending, the end after the report, a failure after the
beginning (`Standing.Legal`). A client keeps to that whatever is answered (`Service.follows_submit`,
`Service.follows_run`, `Service.follows_getReport`).
-/
namespace ScanAdapter

/-- What a client knows: from which mark on it watches the key, what it has read of it since, and how far its run
has come. -/
structure Standing where
  mark : Option Nat
  held : Option String
  /-- The run has moved the job on. -/
  started : Bool
  /-- The run has given the job a report. -/
  attached : Bool
  deriving DecidableEq, Repr

/-- The text is that of a job with a report. -/
def ScanJob.hasReport (text : String) : Bool :=
  match ScanJob.decode text with
  | .ok job => job.report.isSome
  | .error _ => false

theorem ScanJob.hasReport_of_decode {text : String} {job : ScanJob} (h : ScanJob.decode text = .ok job) :
    ScanJob.hasReport text = job.report.isSome := by rw [hasReport, h]

namespace Standing

def fresh : Standing := ⟨none, none, false, false⟩

/-- The updates of a run, each with what comes before it. -/
inductive Legal (k : Standing) : Update → Prop
  | pending : Legal k (.moveTo .pending none)
  | report {report : ScanReport} (hstarted : k.started = true) (h : report.Storable) : Legal k (.attach report)
  | finished (hattached : k.attached = true) : Legal k (.moveTo .finished none)
  | failed (hstarted : k.started = true) (message : String) : Legal k (.moveTo .failed (some message))

theorem Legal.storable {k : Standing} {u : Update} (h : k.Legal u) : u.Storable := by
  cases h with
  | report _ h => exact Update.storable_attach h
  | pending | finished _ | failed _ _ => exact Update.storable_moveTo

/-- The run has come as far at least. -/
def Below (k k' : Standing) : Prop :=
  (k.started = true → k'.started = true) ∧ (k.attached = true → k'.attached = true)

variable {k k' k₀ : Standing}

theorem Below.refl (k : Standing) : k.Below k := ⟨id, id⟩

theorem Below.legal {u : Update} (h : k.Below k') (hu : k.Legal u) : k'.Legal u := by
  cases hu with
  | pending => exact .pending
  | report hstarted hreport => exact .report (h.1 hstarted) hreport
  | finished hattached => exact .finished (h.2 hattached)
  | failed hstarted message => exact .failed (h.1 hstarted) message

/-- What a client may ask for. A commit is that of a legal update, made of what was read. -/
def May (key : String) (k : Standing) : Request → Prop
  | .currentTime | .startTimer _ | .stopTimer | .scan => True
  | .setIfAbsent key' text _ => key' = key ∧ ∃ id, (ScanJob.queued id).encode = .ok text
  | .read key' | .watch key' | .readWatched key' => key' = key
  | .commit key' m text _ => key' = key ∧ k.mark = some m ∧ ∃ u before job, k.Legal u ∧ k.held = some before ∧
      ScanJob.decode before = .ok job ∧ (u.apply job).encode = .ok text

/-- Nothing new is known, and something may be forgotten. -/
structure Within (k k' : Standing) : Prop where
  started : k'.started = k.started
  attached : k'.attached = k.attached
  mark : k'.mark = k.mark ∨ k'.mark = none
  held : k'.held = k.held ∨ k'.held = none

/-- What a client gets to know. -/
def Learns (k : Standing) : (q : Request) → Outcome q.Reply → Standing → Prop
  | .watch _, .value m, k' => k'.started = k.started ∧ k'.attached = k.attached ∧ k'.held = none ∧
    (k'.mark = some m ∨ k'.mark = k.mark)
  | .readWatched _, .value held, k' => k' = { k with held }
  | .commit _ _ text _, .value true, k' => k' = ⟨none, none, true, k.attached || ScanJob.hasReport text⟩
  | _, _, k' => k.Within k'

def protocol (key : String) : Protocol Standing := ⟨May key, Learns⟩

theorem Within.refl (k : Standing) : k.Within k := ⟨rfl, rfl, .inl rfl, .inl rfl⟩

/-! ## Calls on the store -/

/-- A client in the middle of a call of the store, seen as a client of the service that began it with `k₀`. -/
def Mirrors (call : Call) (k₀ : Standing) : Progress → Standing → Prop
  | .active mark held _, k => (∀ m ∈ mark, k.mark = some m) ∧
    (∀ u, call = .update u → ∀ text ∈ held, k.held = some text) ∧ k₀.Below k
  | .written _, k => k₀.Below k ∧ ∀ u, call = .update u →
      k.started = true ∧ ∀ report, u = .attach report → k.attached = true
  | _, k => k₀.Below k

theorem Mirrors.below {call : Call} {p : Progress} (h : Mirrors call k₀ p k) : k₀.Below k := by
  cases p with
  | active mark held crossed => exact h.2.2
  | written before => exact h.1
  | absent | gone | taken | broken _ => exact h

variable {caller : Caller} {id : String} {p : Progress} {q : Request}

theorem Mirrors.may (h : Mirrors caller.call k₀ p k) (hupdate : ∀ u, caller.call = .update u → k₀.Legal u)
    (hcreate : ∀ job, caller.call = .create job → ∃ id, job = ScanJob.queued id) (hmay : caller.May id p q) :
    May (caller.store.keyFor id) k q := by
  cases p with
  | absent | gone | taken | written _ | broken _ =>
    obtain rfl : q = .stopTimer := hmay
    trivial
  | active mark held crossed =>
    cases q with
    | currentTime | startTimer _ | stopTimer | scan => trivial
    | setIfAbsent key text seconds =>
      obtain ⟨rfl, -, job, hcall, hencode⟩ := hmay
      obtain ⟨id', rfl⟩ := hcreate job hcall
      exact ⟨rfl, id', hencode⟩
    | read key | watch key | readWatched key => exact hmay.1
    | commit key m text seconds =>
      obtain ⟨rfl, -, hmark, u, before, job, hcall, hheld, hdecode, hencode⟩ := hmay
      exact ⟨rfl, h.1 m hmark, u, before, job, h.2.2.legal (hupdate u hcall), h.2.1 u hcall before hheld, hdecode,
        hencode⟩

/-- A failure ends the call, or leaves it without what was read. -/
theorem mirrors_afterFailure {call : Call} {mark : Option Nat} {crossed : Nat} (f : Failure)
    (hmark : ∀ m ∈ mark, k.mark = some m) (hbelow : k₀.Below k) :
    Mirrors call k₀ (Progress.afterFailure mark crossed f) k := by
  rcases Progress.afterFailure_cases mark crossed f with ⟨-, hafter⟩ | ⟨-, hafter⟩
  · rw [hafter]
    exact ⟨hmark, fun _ _ => nofun, hbelow⟩
  · rw [hafter]
    exact hbelow

theorem Mirrors.learn (h : Mirrors caller.call k₀ p k) (hupdate : ∀ u, caller.call = .update u → k₀.Legal u)
    (hmay : caller.May id p q) (o : Outcome q.Reply) :
    ∃ k', Learns k q o k' ∧ Mirrors caller.call k₀ (p.after q o) k' := by
  cases p with
  | absent | gone | taken | written _ | broken _ =>
    obtain rfl : q = .stopTimer := hmay
    exact ⟨k, .refl k, h⟩
  | active mark held crossed =>
    obtain ⟨hmark, hheld, hbelow⟩ := h
    have hforget : k.Within { k with held := none } := ⟨rfl, rfl, .inl rfl, .inr rfl⟩
    cases q with
    | currentTime | scan => cases hmay
    | startTimer _ | stopTimer => exact ⟨k, .refl k, hmark, hheld, hbelow⟩
    | setIfAbsent key text seconds =>
      obtain ⟨-, -, job, hcall, -⟩ := hmay
      have hnone : ∀ u, caller.call ≠ .update u := hcall ▸ fun _ => Call.noConfusion
      refine ⟨k, .refl k, ?_⟩
      rcases o with (_ | _) | _ | _
      · exact hbelow
      · exact ⟨hbelow, fun u hu => absurd hu (hnone u)⟩
      · exact hbelow
      · exact ⟨hmark, hheld, hbelow⟩
    | read key =>
      obtain ⟨-, hcall⟩ := hmay
      have hnone : ∀ u, caller.call ≠ .update u := hcall ▸ fun _ => Call.noConfusion
      refine ⟨k, .refl k, ?_⟩
      rcases o with (_ | _) | _ | _
      · exact hbelow
      · exact ⟨hmark, fun u hu => absurd hu (hnone u), hbelow⟩
      · exact hbelow
      · exact ⟨hmark, hheld, hbelow⟩
    | watch key =>
      cases o with
      | value m =>
        refine ⟨⟨some (mark.getD m), none, k.started, k.attached⟩, ⟨rfl, rfl, rfl, ?_⟩, ?_⟩
        · cases mark with
          | none => exact .inl rfl
          | some first => exact .inr (hmark first rfl).symm
        · exact ⟨fun _ hm => hm, fun _ _ => nofun, hbelow⟩
      | failed f => exact ⟨_, hforget, mirrors_afterFailure f hmark hbelow⟩
      | silent => exact ⟨k, .refl k, hmark, hheld, hbelow⟩
    | readWatched key =>
      rcases o with (_ | text) | f | _
      · exact ⟨_, rfl, hbelow⟩
      · exact ⟨_, rfl, hmark, fun _ _ _ htext => htext, hbelow⟩
      · exact ⟨_, hforget, mirrors_afterFailure f hmark hbelow⟩
      · exact ⟨k, .refl k, hmark, hheld, hbelow⟩
    | commit key m text seconds =>
      obtain ⟨-, -, -, u, before, job, hcall, -, hdecode, hencode⟩ := hmay
      rcases o with (_ | _) | f | _
      · exact ⟨k, .refl k, hbelow⟩
      · refine ⟨_, rfl, ⟨fun _ => rfl, fun hattached => ?_⟩, ?_⟩
        · exact Bool.or_eq_true_iff.2 (.inl (hbelow.2 hattached))
        · intro u' hu'
          rw [hcall] at hu'
          cases hu'
          refine ⟨rfl, ?_⟩
          rintro report rfl
          have hstorable := (hupdate _ hcall).storable.apply (ScanJob.storable_of_decode hdecode)
          have hreport := ScanJob.hasReport_of_decode (hstorable.decode_of_encode hencode)
          exact Bool.or_eq_true_iff.2 (.inr hreport)
      · exact ⟨k, .refl k, mirrors_afterFailure f nofun hbelow⟩
      · exact ⟨k, .refl k, hmark, hheld, hbelow⟩

/-- A call of the store that a client may make keeps to what a client may do. -/
theorem follows_call (hupdate : ∀ u, caller.call = .update u → k₀.Legal u)
    (hcreate : ∀ job, caller.call = .create job → ∃ id, job = ScanJob.queued id) :
    (caller.program (caller.call.on id)).Follows (protocol (caller.store.keyFor (caller.call.on id)))
      (fun k o => ∃ p, Mirrors caller.call k₀ p k ∧ caller.Ends (caller.call.on id) p o) k₀ := by
  refine (caller.follows_program id).simulate (fun h hmay => h.may hupdate hcreate hmay) ?_
    ⟨nofun, fun _ _ => nofun, .refl k₀⟩
  rintro p k q o _ h hmay rfl
  exact h.learn hupdate hmay o

theorem follows_perform {s : JobStore} {u : Update} (hlegal : k₀.Legal u) :
    (s.perform u id none).Follows (protocol (s.keyFor id))
      (fun k o => k₀.Below k ∧ ∀ job, o = .value job →
        k.started = true ∧ ∀ report, u = .attach report → k.attached = true) k₀ := by
  have hcall := @follows_call k₀ ⟨s, .update u, none⟩ id (by rintro _ ⟨⟩; exact hlegal) (by rintro _ ⟨⟩)
  refine (Program.Follows.of_map (p := s.perform u id none) hcall).mono ?_
  rintro k o ⟨p, hmirrors, hends⟩
  refine ⟨hmirrors.below, ?_⟩
  rintro job rfl
  obtain ⟨before, rfl⟩ := Caller.written_of_value (u := u) rfl hends
  exact hmirrors.2 u rfl

end Standing

/-! ## The service -/

namespace Service

open Standing

variable {s : Service} {id : String} {k : Standing} {α : Type} {P : Standing → Outcome α → Prop}

theorem follows_logAll {key : String} {next : Unit → Program α} (lines : List LogLine)
    (h : (next ()).Follows (protocol key) P k) : (Program.logAll lines >>= next).Follows (protocol key) P k := by
  induction lines with
  | nil => exact h
  | cons line lines ih => exact ih

theorem follows_submit (k : Standing) :
    (s.submit id).Follows (protocol (s.store.keyFor id)) (fun _ _ => True) k := by
  have hcreate := @follows_call k ⟨s.store, .create (.queued id), none⟩ id (by rintro _ ⟨⟩)
    (by rintro _ ⟨⟩; exact ⟨id, rfl⟩)
  refine (Program.Follows.of_map (p := s.store.create (.queued id) none) hcreate).bind ?_ ?_ ?_
  · exact fun _ _ _ => trivial
  · exact fun _ _ _ => trivial
  · exact fun _ _ => trivial

theorem follows_getReport (k : Standing) :
    (s.getReport id).Follows (protocol (s.store.keyFor id)) (fun _ _ => True) k := by
  have hget := @follows_call k ⟨s.store, .get, none⟩ id (by rintro _ ⟨⟩) (by rintro _ ⟨⟩)
  refine (Program.Follows.of_map (p := s.store.get id none) hget).bind ?_ ?_ ?_
  · exact fun _ _ _ => trivial
  · exact fun _ _ _ => trivial
  · exact fun _ _ => trivial

/-- A report can be stored, and to make it is no news of the job. -/
theorem follows_transform {key : String} {scanner : Scanner} {artifact : Artifact} {vs : List Trivy.Vulnerability}
    (hvs : ∀ v ∈ vs, v.SourcesDiffer) :
    (Trivy.transform scanner artifact vs).Follows (protocol key)
      (fun k₁ o => k₁ = k ∧ ∀ report, o = .value report → report.Storable) k := by
  refine follows_logAll _ ⟨trivial, fun o _ => ⟨k, by cases o <;> exact .refl k, ?_⟩⟩
  cases o with
  | failed f => exact ⟨rfl, nofun⟩
  | silent => exact ⟨rfl, nofun⟩
  | value now =>
    refine ⟨rfl, ?_⟩
    rintro _ ⟨⟩
    exact Trivy.storable_report hvs

/-- The report of a scan is recorded after the beginning of the run, and its end after the report. -/
theorem follows_scanAndRecord (artifact : Artifact) (hstarted : k.started = true) :
    (s.scanAndRecord id artifact).Follows (protocol (s.store.keyFor id)) (fun k _ => k.started = true) k := by
  refine ⟨trivial, fun o ho => ⟨k, by cases o <;> exact .refl k, ?_⟩⟩
  cases o with
  | failed f => exact hstarted
  | silent => exact hstarted
  | value vs =>
    refine (follows_transform ho).bind (fun k report hmade => ?_) (fun _ _ h => h.1 ▸ hstarted) fun _ h => h.1 ▸ hstarted
    obtain ⟨rfl, hreport⟩ := hmade
    refine (follows_perform (.report hstarted (hreport report rfl))).bind (fun k₁ written hthen => ?_) ?_ ?_
    · refine (follows_perform (.finished ((hthen.2 written rfl).2 _ rfl))).bind ?_ ?_ ?_
      · exact fun k₂ _ hdone => hdone.1.1 (hthen.1.1 hstarted)
      · exact fun k₂ _ hdone => hdone.1.1 (hthen.1.1 hstarted)
      · exact fun k₂ hdone => hdone.1.1 (hthen.1.1 hstarted)
    · exact fun k₁ _ hthen => hthen.1.1 hstarted
    · exact fun k₁ hthen => hthen.1.1 hstarted

/-- A failure is recorded after the beginning of the run. -/
theorem follows_recordFailure (f : Failure) (hstarted : k.started = true) :
    (s.recordFailure id f).Follows (protocol (s.store.keyFor id)) (fun _ _ => True) k := by
  refine (follows_perform (.failed hstarted f.text)).bind ?_ ?_ ?_
  · exact fun _ _ _ => trivial
  · exact fun _ _ _ => trivial
  · exact fun _ _ => trivial

theorem follows_run (artifact : Artifact) (k : Standing) :
    (s.run id artifact).Follows (protocol (s.store.keyFor id)) (fun _ _ => True) k := by
  refine (follows_perform .pending).bind (fun k₁ written hthen => ?_) (fun _ _ _ => trivial) fun _ _ => trivial
  refine (follows_scanAndRecord artifact (hthen.2 written rfl).1).andThen fun k₂ o hstarted => ?_
  cases o with
  | value report => trivial
  | silent => trivial
  | failed f =>
    dsimp only
    split
    · trivial
    · exact follows_recordFailure f hstarted

end Service

end ScanAdapter
