import ScanAdapter.Proofs.Service.Errands
import ScanAdapter.Proofs.Store.Namespaces
import ScanAdapter.Proofs.Store.Readable

/-!
# Whose record it is

A call looks for a record under a key that is made of the identity it was given, and what it finds there has an
identity in itself. Among clients of one namespace the two are the same: whatever they do and whatever fails, each
record is that of the job whose key it is under, each job that a call brings is the one it was asked for, and each error
of a store says which operation has failed and on which job (`Traffic.names_are_right`).

The invariant is about the server (`Server.Named`) and about what each client has read in the midst of a call
(`Progress.Names`): an update writes the identity that it has read.
-/
namespace ScanAdapter

/-! ## Texts and records -/

/-- If the text is that of a job, it is that of this one. -/
def ScanJob.Names (id text : String) : Prop := ∀ job, ScanJob.decode text = .ok job → job.id = id

theorem ScanJob.names_of_encode {job : ScanJob} {text : String} (hnames : job.NamesDiffer)
    (hencode : job.encode = .ok text) : ScanJob.Names job.id text := by
  intro read hdecode
  rw [ScanJob.eq_settled_of_decode hnames hencode hdecode]
  rfl

theorem Update.id_apply (u : Update) (job : ScanJob) : (u.apply job).id = job.id := by cases u <;> rfl

theorem Server.not_records {s : Server} {key : String} {job : ScanJob} (h : s.find? key = none) :
    ¬ s.Records key job := by
  intro hrecord
  obtain ⟨e, hfind⟩ := hrecord.find?
  rw [h] at hfind
  cases hfind

/-- Each record of the namespace is that of the job whose key it is under. -/
def Server.Named (s : Server) (space : String) : Prop :=
  ∀ (store : JobStore) (id : String) (job : ScanJob), store.storeNamespace = space → s.Records (store.keyFor id) job →
    job.id = id

namespace Server.Named

variable {s s' : Server} {space : String} {store : JobStore} {id text : String}

theorem of_empty (h : ∀ key, s.find? key = none) : s.Named space :=
  fun _ _ _ _ hrecord => absurd hrecord (not_records (h _))

/-- Where keys go away there is nothing new. -/
theorem of_gone (h : s.Named space) (hgone : ∀ key, s'.find? key = none ∨ s'.find? key = s.find? key) :
    s'.Named space := by
  intro store id job hstore hrecord
  rcases hgone (store.keyFor id) with hnone | hsame
  · exact absurd hrecord (not_records hnone)
  · exact h store id job hstore (hrecord.congr hsame.symm)

theorem advance (h : s.Named space) (seconds : Nat) : (s.advance seconds).Named space :=
  h.of_gone fun key => s.find?_advance_cases key seconds

theorem vanish (h : s.Named space) (key : String) (noticed : Bool) : (s.vanish key noticed).Named space := by
  refine h.of_gone fun other => ?_
  rw [find?_vanish]
  by_cases hother : other = key
  · exact .inl (if_pos hother)
  · exact .inr (if_neg hother)

theorem names (h : s.Named space) (hstore : store.storeNamespace = space)
    (hread : s.read (store.keyFor id) = .ok (some text)) : ScanJob.Names id text :=
  fun job hdecode => h store id job hstore ⟨text, hread, hdecode⟩

/-- A job may be written under its own key. -/
theorem put {seconds : Int} (h : s.Named space) (hstore : store.storeNamespace = space) (hseconds : 0 ≤ seconds)
    (htext : ScanJob.Names id text) : (s.put (store.keyFor id) (s.textFor text seconds)).Named space := by
  intro other otherId job hother hrecord
  by_cases hkey : other.keyFor otherId = store.keyFor id
  · obtain rfl := JobStore.id_eq_of_keyFor_eq (hother.trans hstore.symm) hkey
    obtain ⟨found, hread, hdecode⟩ := hrecord
    rw [hkey, read_put_textFor hseconds] at hread
    cases hread
    exact htext job hdecode
  · exact h other otherId job hother (hrecord.congr (find?_put_of_ne s _ hkey).symm)

end Server.Named

/-! ## What comes of a request -/

theorem Outcome.eq_ok_of_ofExcept {α : Type} {r : Except Fault α} {a : α} (h : ofExcept r = .value a) : r = .ok a := by
  cases r with
  | ok b =>
    cases h
    rfl
  | error f => cases h

theorem Outcome.isForeign_of_ofExcept {α : Type} {r : Except Fault α} {f : Failure} (h : ofExcept r = .failed f) :
    f.IsForeign := by
  cases r with
  | ok b => cases h
  | error fault =>
    cases h
    trivial

namespace Server.Gives

variable {s s' : Server} {key text : String}

/-- The server does not fail with an error of a store. -/
theorem isForeign {q : Request} {f : Failure} (h : s.Gives q (.failed f) s') (hq : q.isCommand = true) :
    f.IsForeign := by
  cases h with
  | brought hq' _ =>
    rw [hq] at hq'
    cases hq'
  | failed _ hf h | lost _ hf h =>
    cases h
    exact hf
  | answered _ h =>
    have hfirst := congrArg Prod.fst h
    cases q with
    | currentTime | startTimer _ | stopTimer | scan => cases hq
    | watch key => cases hfirst
    | setIfAbsent key text seconds => exact Outcome.isForeign_of_ofExcept hfirst
    | commit key mark text seconds => exact Outcome.isForeign_of_ofExcept hfirst
    | read key | readWatched key => exact Outcome.isForeign_of_ofExcept hfirst

theorem mayBring {q : Request} {o : Outcome q.Reply} (h : s.Gives q o s') : q.MayBring o := by
  cases h with
  | answered hq h =>
    have hbrings := s.mayBring_answer hq
    rw [h] at hbrings
    exact hbrings
  | brought _ h => exact h
  | failed hq _ h | lost hq _ h =>
    cases h
    exact Request.isTimer_of_isCommand hq

theorem read_eq (h : s.Gives (.read key) (.value (some text)) s') : s.read key = .ok (some text) := by
  cases h with
  | brought hq _ => cases hq
  | failed _ _ h | lost _ _ h => cases h
  | answered _ h => exact Outcome.eq_ok_of_ofExcept (congrArg Prod.fst h)

theorem readWatched_eq (h : s.Gives (.readWatched key) (.value (some text)) s') : s.read key = .ok (some text) := by
  cases h with
  | brought hq _ => cases hq
  | failed _ _ h | lost _ _ h => cases h
  | answered _ h => exact Outcome.eq_ok_of_ofExcept (congrArg Prod.fst h)

end Server.Gives

/-! ## In the midst of a call -/

/-- What the client has read is the job, and no failure has come from a store. -/
def Progress.Names (id : String) : Progress → Prop
  | .active _ held _ => ∀ text ∈ held, ScanJob.Names id text
  | .written before => ∀ text ∈ before, ScanJob.Names id text
  | .broken f => f.IsForeign
  | .absent | .gone | .taken => True

section

variable {c : Caller} {s s' : Server} {space id : String} {k : Progress} {q : Request} {o : Outcome q.Reply}

theorem Progress.names_afterFailure {mark : Option Nat} {crossed : Nat} {f : Failure} (hf : f.IsForeign) :
    (afterFailure mark crossed f).Names id := by
  rcases afterFailure_cases mark crossed f with ⟨-, hafter⟩ | ⟨-, hafter⟩
  · rw [hafter]
    exact nofun
  · rw [hafter]
    exact hf

/-- **What a client reads next is the job again.** -/
theorem Progress.Names.after (hk : k.Names id) (hmay : c.May id k q) (hstore : c.store.storeNamespace = space)
    (hnamed : s.Named space) (hgives : s.Gives q o s') : (k.after q o).Names id := by
  cases k with
  | absent | gone | taken | written _ | broken _ =>
    obtain rfl : q = .stopTimer := hmay
    exact hk
  | active mark held crossed =>
    cases q with
    | currentTime | scan => cases hmay
    | startTimer _ | stopTimer => exact hk
    | setIfAbsent key text seconds =>
      rcases o with (_ | _) | f | _
      · trivial
      · exact nofun
      · exact hgives.isForeign rfl
      · exact hk
    | read key =>
      obtain ⟨rfl, -⟩ := hmay
      rcases o with (_ | text) | f | _
      · trivial
      · -- the text under the key is the job, whoever wrote it
        rintro _ ⟨⟩
        exact hnamed.names hstore hgives.read_eq
      · exact hgives.isForeign rfl
      · exact hk
    | watch key =>
      cases o with
      | value m => exact nofun
      | failed f => exact names_afterFailure (hgives.isForeign rfl)
      | silent => exact hk
    | readWatched key =>
      obtain ⟨rfl, -⟩ := hmay
      rcases o with (_ | text) | f | _
      · trivial
      · rintro _ ⟨⟩
        exact hnamed.names hstore hgives.readWatched_eq
      · exact names_afterFailure (hgives.isForeign rfl)
      · exact hk
    | commit key m text seconds =>
      rcases o with (_ | _) | f | _
      · trivial
      · exact hk
      · exact names_afterFailure (hgives.isForeign rfl)
      · exact hk

/-- **A call writes the job under its own key.** A new job has the identity in itself, a changed one had it before. -/
theorem Server.Named.answer (hnamed : s.Named space) (hstore : c.store.storeNamespace = space)
    (hon : c.call.on id = id) (hnames : c.call.NamesDiffer) (hk : k.Names id) (hmay : c.May id k q) :
    (s.answer q).2.Named space := by
  cases q with
  | setIfAbsent key text seconds =>
    obtain ⟨mark, held, crossed, rfl⟩ := Caller.active_of_isCommand hmay rfl
    obtain ⟨rfl, -, job, hcall, hencode⟩ := hmay
    rcases s.answer_setIfAbsent_cases (c.store.keyFor id) text seconds with hsame | ⟨hput, -, hseconds⟩
    · rw [hsame]
      exact hnamed
    · rw [hput]
      rw [hcall] at hon hnames
      have htext := ScanJob.names_of_encode (hnames.1 job rfl) hencode
      exact hnamed.put hstore hseconds (hon ▸ htext)
  | commit key m text seconds =>
    obtain ⟨mark, held, crossed, rfl⟩ := Caller.active_of_isCommand hmay rfl
    obtain ⟨rfl, -, -, u, before, job, hcall, hheld, hdecode, hencode⟩ := hmay
    rcases s.answer_commit_cases (c.store.keyFor id) m text seconds with hsame | ⟨hput, -, -, hseconds⟩
    · rw [hsame]
      exact hnamed
    · rw [hput]
      rw [hcall] at hnames
      -- the record may have changed since it was read, but not its identity
      have hid : (u.apply job).id = id := (u.id_apply job).trans (hk before hheld job hdecode)
      have hjob := Update.namesDiffer_apply (hnames.2 u rfl) (ScanJob.namesDiffer_of_decode hdecode)
      exact hnamed.put hstore hseconds (hid ▸ ScanJob.names_of_encode hjob hencode)
  | _ => exact hnamed

theorem Server.Named.gives (hnamed : s.Named space) (hstore : c.store.storeNamespace = space)
    (hon : c.call.on id = id) (hnames : c.call.NamesDiffer) (hk : k.Names id) (hmay : c.May id k q)
    (hgives : s.Gives q o s') : s'.Named space := by
  have hanswer := hnamed.answer hstore hon hnames hk hmay
  cases hgives with
  | answered _ h =>
    rw [h] at hanswer
    exact hanswer
  | brought _ _ | failed _ _ _ => exact hnamed
  | lost _ _ _ => exact hanswer

end

/-! ## The end of a call -/

/-- An error of a store says which operation has failed and on which job. -/
def Failure.Names (op : Operation) (id : String) : Failure → Prop
  | .store e => e.operation = op ∧ e.jobId = id
  | _ => True

theorem JobStore.names_classify {op : Operation} {id : String} {limit : Option Number} {f : Failure}
    (hf : f.IsForeign) : (classify op id limit f).Names op id := by
  cases f with
  | store e => exact hf.elim
  | overdue timer => trivial
  | fault fault =>
    cases fault with
    | refused _ | unwritable _ => trivial
    | unreadable _ | server _ _ => exact ⟨rfl, rfl⟩
    | other kind message =>
      cases kind with
      | timeLimit => exact ⟨rfl, rfl⟩
      | _ => trivial

theorem JobStore.names_told {op : Operation} {id : String} {timing : Option (Number × Nat)} {f : Failure}
    (hf : f.IsForeign) : (told op id timing f).Names op id := by
  rcases timing with _ | ⟨limit, timer⟩
  · exact names_classify hf
  · cases f with
    | store e => exact hf.elim
    | fault fault => exact names_classify (f := .fault fault) trivial
    | overdue t =>
      by_cases ht : t = timer
      · rw [told, if_pos ht]
        exact ⟨rfl, rfl⟩
      · rw [told, if_neg ht]
        trivial

namespace Caller.Ends

variable {c : Caller} {id : String} {k : Progress}

/-- A call brings the job that it was asked for. -/
theorem id_eq {job : ScanJob} {o : Outcome Answer} (h : c.Ends id k o) (hk : k.Names id)
    (ho : o = .value (.found (some job)) ∨ o = .value (.updated job)) : job.id = id := by
  cases h with
  | found _ hdecode =>
    rcases ho with ⟨⟨⟩⟩ | ⟨⟨⟩⟩
    exact hk _ rfl job hdecode
  | @updated u _ before _ hdecode =>
    rcases ho with ⟨⟨⟩⟩ | ⟨⟨⟩⟩
    exact (u.id_apply before).trans (hk _ rfl before hdecode)
  | _ => rcases ho with ⟨⟨⟩⟩ | ⟨⟨⟩⟩

theorem names {f : Failure} (h : c.Ends id k (.failed f)) (hon : c.call.on id = id) (hk : k.Names id) :
    f.Names c.call.operation id := by
  cases h with
  | late _ => exact ⟨rfl, rfl⟩
  | broken f timing => exact JobStore.names_told hk
  | corrupted _ => exact ⟨rfl, rfl⟩
  | unwritableJob hcall _ | taken hcall =>
    rw [hcall] at hon ⊢
    exact ⟨rfl, hon⟩
  | absent hcall | gone hcall | gaveUp hcall =>
    rw [hcall]
    exact ⟨rfl, rfl⟩
  | @unwritableUpdate u _ _ _ job _ hcall hdecode _ =>
    rw [hcall]
    exact ⟨rfl, (u.id_apply job).trans (hk _ rfl job hdecode)⟩

end Caller.Ends

/-! ## Errands on one job -/

theorem Call.namesDiffer_create {job : ScanJob} : (create job).NamesDiffer ↔ job.NamesDiffer := by
  simp [NamesDiffer, job?, update?]

theorem Call.namesDiffer_get : get.NamesDiffer := by simp [NamesDiffer, job?, update?]

theorem Call.namesDiffer_update {u : Update} : (update u).NamesDiffer ↔ u.NamesDiffer := by
  simp [NamesDiffer, job?, update?]

theorem Update.namesDiffer_moveTo (status : JobStatus) (error : Option String) : (moveTo status error).NamesDiffer := by
  simp [NamesDiffer, report?]

theorem Update.namesDiffer_attach {report : ScanReport} : (attach report).NamesDiffer ↔ report.NamesDiffer := by
  simp [NamesDiffer, report?]

theorem ScanJob.namesDiffer_queued (id : String) : (queued id).NamesDiffer := by simp [namesDiffer_iff, queued]

theorem Call.on_on (call : Call) (id : String) : call.on (call.on id) = call.on id := by cases call <;> rfl

/-- The errand asks the server for nothing but in calls on one job, through stores of one namespace, and ends as `P`
asks. The call that it is in the midst of keeps to its rules, and what was read in it is the job. -/
inductive Errand.About {α : Type} (space id : String) (P : Outcome α → Prop) : Errand α → Prop
  | done {o : Outcome α} (h : P o) : About space id P (.done o)
  | note {line : LogLine} {e : Errand α} (h : e.About space id P) : About space id P (.note line e)
  | ask {q : Request} {next : Outcome q.Reply → Errand α} (hq : q.isCommand = false)
    (h : ∀ o, q.MayBring o → (next o).About space id P) : About space id P (.ask q next)
  | amid {caller : Caller} {left : Program Answer} {next : Outcome Answer → Errand α} {k : Progress}
    (hstore : caller.store.storeNamespace = space) (hon : caller.call.on id = id) (hnames : caller.call.NamesDiffer)
    (hk : k.Names id) (hleft : left.Follows (caller.protocol id) (caller.Ends id) k)
    (hnext : ∀ o, (next o).About space id P) : About space id P (.amid caller id left next)

namespace Errand.About

variable {α β : Type} {space id : String} {Q : Outcome α → Prop} {P : Outcome β → Prop} {e : Errand α}

theorem andThen {next : Outcome α → Errand β} (h : e.About space id Q)
    (hnext : ∀ o, Q o → (next o).About space id P) : (e.andThen next).About space id P := by
  induction h with
  | done h => exact hnext _ h
  | note _ ih => exact .note ih
  | ask hq _ ih => exact .ask hq ih
  | amid hstore hon hnames hk hleft _ ih => exact .amid hstore hon hnames hk hleft ih

theorem bind {next : α → Errand β} (h : e.About space id Q)
    (hnext : ∀ a, Q (.value a) → (next a).About space id fun _ => True) :
    (e >>= next).About space id fun _ => True := by
  refine h.andThen fun o ho => ?_
  cases o with
  | value a => exact hnext a ho
  | failed f | silent => exact .done trivial

theorem map {g : α → β} (h : e.About space id Q) : (g <$> e).About space id fun _ => True :=
  h.bind fun _ _ => .done trivial

theorem call {c : Caller} (hstore : c.store.storeNamespace = space) (hon : c.call.on id = id)
    (hnames : c.call.NamesDiffer) : (Errand.call c id).About space id fun _ => True := by
  have hfollows := c.follows_program id
  rw [hon] at hfollows
  rw [Errand.call, hon]
  exact .amid (k := .begun) hstore hon hnames nofun hfollows fun _ => .done trivial

/-- **Whatever is done next in an errand, it stays about its job**, and all records are named as they should be. -/
theorem goes {s s' : Server} {e' : Errand α} (h : e.About space id Q) (hnamed : s.Named space)
    (hgoes : e.Goes s e' s') : e'.About space id Q ∧ s'.Named space := by
  cases hgoes with
  | note =>
    cases h with
    | note h => exact ⟨h, hnamed⟩
  | ask hgives =>
    cases h with
    | ask hq h =>
      -- outside of calls nothing is asked of the server
      cases hgives with
      | brought _ ho => exact ⟨h _ ho, hnamed⟩
      | answered hq' _ | failed hq' _ _ | lost hq' _ _ =>
        rw [hq] at hq'
        cases hq'
  | back =>
    cases h with
    | amid _ _ _ _ _ hnext => exact ⟨hnext _, hnamed⟩
  | within hgoes =>
    cases h with
    | amid hstore hon hnames hk hleft hnext =>
      cases hgoes with
      | note => exact ⟨.amid hstore hon hnames hk hleft hnext, hnamed⟩
      | ask hgives =>
        obtain ⟨hmay, hthen⟩ := hleft
        obtain ⟨k', rfl, hleft'⟩ := hthen _ hgives.mayBring
        have hk' := hk.after hmay hstore hnamed hgives
        exact ⟨.amid hstore hon hnames hk' hleft' hnext, hnamed.gives hstore hon hnames hk hmay hgives⟩

end Errand.About

namespace Service

open Errand

variable {s : Service} {id : String}

theorem about_changing {u : Update} (hu : u.NamesDiffer) :
    (s.changing id u).About s.store.storeNamespace id fun _ => True :=
  .call rfl rfl (Call.namesDiffer_update.2 hu)

theorem about_log {space : String} (line : LogLine) :
    (ofProgram (Program.log line)).About space id fun _ => True := .note (.done trivial)

theorem about_submitting : (s.submitting id).About s.store.storeNamespace id fun _ => True := by
  have hcall : (Errand.call ⟨s.store, .create (.queued id), none⟩ id).About s.store.storeNamespace id fun _ => True :=
    .call rfl rfl (Call.namesDiffer_create.2 (ScanJob.namesDiffer_queued id))
  exact hcall.bind fun _ _ => (about_log _).bind fun _ _ => .done trivial

theorem about_looking : (s.looking id).About s.store.storeNamespace id fun _ => True := by
  have hcall : (Errand.call ⟨s.store, .get, none⟩ id).About s.store.storeNamespace id fun _ => True :=
    .call rfl rfl Call.namesDiffer_get
  refine hcall.bind fun answer _ => ?_
  cases answer <;> exact .done trivial

/-- A scan names no source twice. -/
theorem about_scan {space : String} : (ofProgram Program.scan).About space id
    fun o => ∀ vs : List Trivy.Vulnerability, o = .value vs → ∀ v ∈ vs, v.SourcesDiffer := by
  refine .ask rfl fun o ho => .done ?_
  rintro vs rfl
  exact ho

theorem about_logAll {α : Type} {next : Unit → Program α} {P : Outcome α → Prop} {space : String}
    (lines : List LogLine) (h : (ofProgram (next ())).About space id P) :
    (ofProgram (Program.logAll lines >>= next)).About space id P := by
  induction lines with
  | nil => exact h
  | cons line lines ih => exact .note ih

/-- The report that is made of a scan repeats no name. -/
theorem about_transform {scanner : Scanner} {artifact : Artifact} {vs : List Trivy.Vulnerability} {space : String}
    (hvs : ∀ v ∈ vs, v.SourcesDiffer) : (ofProgram (Trivy.transform scanner artifact vs)).About space id
      fun o => ∀ report, o = .value report → report.NamesDiffer := by
  refine about_logAll _ (.ask rfl fun o _ => ?_)
  cases o with
  | failed f | silent => exact .done nofun
  | value now =>
    refine .done ?_
    rintro _ ⟨⟩
    exact (Trivy.storable_report hvs).namesDiffer

theorem about_scanning (artifact : Artifact) : (s.scanning id artifact).About s.store.storeNamespace id fun _ => True := by
  unfold scanning
  refine about_scan.bind fun vs hvs => ?_
  refine (about_transform (hvs vs rfl)).bind fun report hreport => ?_
  refine (about_changing (Update.namesDiffer_attach.2 (hreport report rfl))).bind fun _ _ => ?_
  exact (about_changing (Update.namesDiffer_moveTo .finished none)).bind fun _ _ => .done trivial

theorem about_recording (f : Failure) : (s.recording id f).About s.store.storeNamespace id fun _ => True := by
  unfold recording
  refine (about_log _).bind fun _ _ => ?_
  exact (about_changing (Update.namesDiffer_moveTo .failed (some f.text))).bind fun _ _ => .done trivial

theorem about_running (artifact : Artifact) : (s.running id artifact).About s.store.storeNamespace id fun _ => True := by
  unfold running
  refine (about_changing (Update.namesDiffer_moveTo .pending none)).bind fun _ _ => ?_
  refine (about_log _).bind fun _ _ => ?_
  refine (about_scanning artifact).andThen fun o _ => ?_
  cases o with
  | value report => exact .note (.done trivial)
  | silent => exact .done trivial
  | failed f =>
    dsimp only
    by_cases hcancelled : f.isCancellation = true
    · rw [if_pos hcancelled]
      exact .done trivial
    · rw [if_neg hcancelled]
      exact about_recording f

end Service

/-- **The errand of a client is about the job of the client.** -/
theorem Client.about_errand {client : Client} (h : client.NamesDiffer) :
    client.errand.About client.store.storeNamespace client.job fun _ => True := by
  cases client with
  | caller c id =>
    have hcall := Errand.About.call rfl (c.call.on_on id) h
    rw [Errand.call, c.call.on_on] at hcall
    exact hcall.map
  | worker w id =>
    obtain ⟨service, task⟩ := w
    cases task with
    | submit => exact (Service.about_submitting.map).map
    | run artifact => exact ((Service.about_running artifact).map).map
    | getReport => exact (Service.about_looking.map).map

/-! ## All clients -/

namespace Traffic

variable {ι α : Type} {space : String} {jobs : ι → String} {t t' : Traffic ι α}

/-- What holds at all times. -/
structure InOrder (space : String) (jobs : ι → String) (t : Traffic ι α) : Prop where
  named : t.server.Named space
  about : ∀ i, (t.errands i).About space (jobs i) fun _ => True

theorem inOrder_start {clients : ι → Client} {server : Server} (hstores : ∀ i, (clients i).store.storeNamespace = space)
    (hnames : ∀ i, (clients i).NamesDiffer) (hempty : ∀ key, server.find? key = none) :
    InOrder space (fun i => (clients i).job) (start server clients) where
  named := .of_empty hempty
  about i := hstores i ▸ Client.about_errand (hnames i)

variable [DecidableEq ι]

theorem InOrder.step (h : InOrder space jobs t) (hstep : Step t t') : InOrder space jobs t' := by
  cases hstep with
  | tick seconds => exact ⟨h.named.advance seconds, h.about⟩
  | vanish key noticed => exact ⟨h.named.vanish key noticed, h.about⟩
  | @turn i e server hgoes =>
    obtain ⟨habout, hnamed⟩ := (h.about i).goes h.named hgoes
    refine ⟨hnamed, ?_⟩
    exact (Function.forall_update_iff t.errands fun j (e : Errand α) => e.About space (jobs j) fun _ => True).2
      ⟨habout, fun j _ => h.about j⟩

theorem inOrder_of_reaches (h : InOrder space jobs t) (hreaches : Reaches t t') : InOrder space jobs t' := by
  induction hreaches with
  | refl => exact h
  | tail _ hstep ih => exact ih.step hstep

/-- **Records, jobs and errors name the right job.** Clients of one namespace make calls on stores, submit, run and look
at jobs, on a server that is empty at first, while time passes, keys vanish and commands fail. At any time, each record
is that of the job whose key it is under. And whenever a client has come to the end of a call, by itself or within a
run, the call was on the job of the client; a job that it brings is that one; and an error of a store that it fails with
is an error of its own operation, on that job. -/
theorem names_are_right (clients : ι → Client) (space : String) (server : Server)
    (hstores : ∀ i, (clients i).store.storeNamespace = space) (hnames : ∀ i, (clients i).NamesDiffer)
    (hempty : ∀ key, server.find? key = none) (t : Traffic ι (Answer ⊕ Product))
    (hreaches : Reaches (start server clients) t) :
    (∀ (store : JobStore) (id : String) (job : ScanJob), store.storeNamespace = space →
      t.server.Records (store.keyFor id) job → job.id = id) ∧
    ∀ i caller id o next, t.errands i = .amid caller id (.done o) next →
      id = (clients i).job ∧
      (∀ job, o = .value (.found (some job)) ∨ o = .value (.updated job) → job.id = id) ∧
      ∀ e, o = .failed (.store e) → e.operation = caller.call.operation ∧ e.jobId = id := by
  have horder := inOrder_of_reaches (inOrder_start hstores hnames hempty) hreaches
  refine ⟨horder.named, fun i caller id o next hi => ?_⟩
  have habout := horder.about i
  rw [hi] at habout
  cases habout with
  | amid hstore hon hnames hk hleft hnext =>
    refine ⟨rfl, fun job ho => Caller.Ends.id_eq hleft hk ho, ?_⟩
    rintro e rfl
    exact Caller.Ends.names hleft hon hk

/-- A client submits a job that another one is about to run. -/
def sampleClients (submits : Bool) : Client := .worker (Crowd.sampleWorkers submits) "job-1"

/-- The job is submitted, and the run loses the connection at its first request. -/
theorem names_are_right_disconnected : ∃ t, Reaches (start Server.empty sampleClients) t ∧
    (∃ job, t.server.Records (JobStore.sampleStore.keyFor "job-1") job ∧ job.id = "job-1") ∧
    ∃ caller e next, t.errands false = .amid caller "job-1" (.done (.failed (.store e))) next ∧
      e.operation = .updateStatus ∧ e.jobId = "job-1" := by
  have hset : Server.empty.setIfAbsent (JobStore.sampleStore.keyFor "job-1") (ScanJob.queued "job-1").toJson.render
      3600 = _ := Server.setIfAbsent_free (by decide) rfl
  have hlost : Failure.IsForeign (.fault (.server .connection "lost")) := trivial
  have hstart : Reaches (start Server.empty sampleClients) _ := .refl
  have hsaving := hstart.tail (.turn (i := true) (.within .note))
  have hsaved := hsaving.tail (.turn (i := true) (.within (.ask (.answered rfl (Server.answer_setIfAbsent hset)))))
  have hupdating := hsaved.tail (.turn (i := false) (.within .note))
  have hfailed := hupdating.tail (.turn (i := false) (.within (.ask (.failed rfl hlost rfl))))
  have hright := names_are_right sampleClients "harbor" Server.empty (fun _ => rfl) (fun _ => trivial) (fun _ => rfl) _
    hfailed
  refine ⟨_, hfailed, ⟨(ScanJob.queued "job-1").settled, ?_, ?_⟩, _, _, _, rfl, ?_⟩
  · exact Server.records_put (by decide) nofun rfl
  · exact hright.1 JobStore.sampleStore "job-1" _ rfl (Server.records_put (by decide) nofun rfl)
  · exact (hright.2 false _ "job-1" _ _ rfl).2.2 _ rfl

end Traffic

end ScanAdapter
