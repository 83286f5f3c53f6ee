import ScanAdapter.Proofs.Store.Trial

/-!
# Errors of the store

An error of a call tells what is stored under the key, or that the server failed, and never comes with a change: the
content of the key and its end are what they were. `Call.verdict` says what a call comes to on whatever is stored,
and `Call.Classifies` says for each kind of error exactly when it comes.
-/
namespace ScanAdapter

/-! ## What is stored -/

/-- What there is under a key, for one who looks for a job. -/
inductive Holding
  | nothing
  | kept (job : ScanJob)
  /-- A text that is no job. -/
  | rejected (r : Refusal)
  /-- Bytes that are no text. -/
  | garbled (f : Text.Utf8Fault)
  /-- No bytes at all. -/
  | foreign
  deriving Repr

def Content.holding : Content → Holding
  | list _ => .foreign
  | text bytes =>
    match Text.decodeUtf8 bytes with
    | .error f => .garbled f
    | .ok t =>
      match ScanJob.decode t with
      | .ok job => .kept job
      | .error r => .rejected r

def Entry.holding (stored : Option Entry) : Holding := stored.elim .nothing fun e => e.content.holding

namespace Server

variable {s : Server} {key text : String}

/-- A text that is read is that of a job or of none. -/
theorem holding_of_read_some (h : s.read key = .ok (some text)) :
    (∀ job, ScanJob.decode text = .ok job → Entry.holding (s.find? key) = .kept job) ∧
      ∀ r, ScanJob.decode text = .error r → Entry.holding (s.find? key) = .rejected r := by
  unfold read at h
  split at h
  · cases h
  · cases h
  · rename_i bytes expiresAt hfind
    rw [hfind]
    split at h
    · rename_i text' hdecode
      cases h
      rw [Entry.holding, Option.elim_some, Content.holding, hdecode]
      dsimp only
      exact ⟨fun job hjob => by rw [hjob], fun r hr => by rw [hr]⟩
    · cases h

/-- What cannot be read is no text. -/
theorem holding_of_read_error {fault : Fault} (h : s.read key = .error fault) :
    (∃ f, Entry.holding (s.find? key) = .garbled f ∧ fault = .unreadable f) ∨
      Entry.holding (s.find? key) = .foreign ∧ fault = wrongType := by
  unfold read at h
  split at h
  · cases h
  · rename_i items expiresAt hfind
    cases h
    rw [hfind]
    exact .inr ⟨rfl, rfl⟩
  · rename_i bytes expiresAt hfind
    rw [hfind]
    split at h
    · cases h
    · rename_i f hdecode
      cases h
      rw [Entry.holding, Option.elim_some, Content.holding, hdecode]
      exact .inl ⟨f, rfl, rfl⟩

end Server

/-! ## What a call comes to -/

namespace JobStore

/-- The error of bytes that are no text. -/
def garbled (op : Operation) (id : String) (f : Text.Utf8Fault) : StoreError :=
  ⟨.corruption, op, id, s!"stored value is not valid UTF-8: {f.message}", some (.unreadable f)⟩

/-- The error of a server that failed. -/
def unavailable (op : Operation) (id : String) (kind : ServerFault) (message : String) : StoreError :=
  ⟨.storage, op, id, ErrorKind.detail .storage message, some (.server kind message)⟩

/-- The error of a key that holds no bytes. -/
def foreign (op : Operation) (id : String) : StoreError :=
  unavailable op id .response "WRONGTYPE Operation against a key holding the wrong kind of value"

variable {op : Operation} {id : String} {timing : Option (Number × Nat)}

theorem told_garbled (f : Text.Utf8Fault) : told op id timing (.fault (.unreadable f)) = .store (garbled op id f) := by
  cases timing <;> rfl

theorem told_unavailable (kind : ServerFault) (message : String) :
    told op id timing (.fault (.server kind message)) = .store (unavailable op id kind message) := by
  cases timing <;> rfl

end JobStore

/-- What is read of it. -/
def Holding.read (op : Operation) (id : String) : Holding → Except StoreError (Option ScanJob)
  | nothing => .ok none
  | kept job => .ok (some job)
  | rejected r => .error (JobStore.corrupted op id r)
  | garbled f => .error (JobStore.garbled op id f)
  | foreign => .error (JobStore.foreign op id)

/-- What a call comes to on what is stored, if nothing fails. -/
def Call.verdict (call : Call) (id : String) (holding : Holding) : Outcome Answer :=
  match call with
  | .create job =>
    match holding with
    | .nothing => .value .created
    | _ => .failed (.store (JobStore.taken job.id))
  | .get =>
    match holding.read .get id with
    | .ok job => .value (.found job)
    | .error e => .failed (.store e)
  | .update u =>
    match holding.read u.operation id with
    | .ok none => .failed (.store (JobStore.notFound u.operation id))
    | .ok (some job) => .value (.updated (u.apply job))
    | .error e => .failed (.store e)

theorem Call.verdict_of_error {call : Call} {id : String} {holding : Holding} {e : StoreError}
    (hcall : call.reads = true) (h : holding.read call.operation id = .error e) :
    call.verdict id holding = .failed (.store e) := by
  cases call with
  | create job => cases hcall
  | get =>
    have hread : holding.read .get id = .error e := h
    rw [verdict, hread]
  | update u =>
    have hread : holding.read u.operation id = .error e := h
    rw [verdict, hread]

theorem Call.verdict_create_of_ne {job : ScanJob} {id : String} {holding : Holding} (h : holding ≠ .nothing) :
    (Call.create job).verdict id holding = .failed (.store (JobStore.taken job.id)) := by
  cases holding with
  | nothing => exact absurd rfl h
  | _ => rfl

/-! ## Kinds of errors -/

/-- The outcome is an error of the store, of this kind. -/
def Outcome.IsError {α : Type} (kind : ErrorKind) : Outcome α → Prop
  | .failed (.store e) => e.kind = kind
  | _ => False

namespace Content

/-- The bytes are the text of the job. -/
def Holds (job : ScanJob) : Content → Prop
  | text bytes => ∃ t, Text.decodeUtf8 bytes = .ok t ∧ ScanJob.decode t = .ok job
  | list _ => False

/-- The bytes are no text, or the text is no job. -/
def IsCorrupt : Content → Prop
  | text bytes => (∃ f, Text.decodeUtf8 bytes = .error f) ∨
    ∃ t r, Text.decodeUtf8 bytes = .ok t ∧ ScanJob.decode t = .error r
  | list _ => False

def IsList : Content → Prop
  | text _ => False
  | list _ => True

variable {content : Content}

theorem holding_ne_nothing : content.holding ≠ .nothing := by
  cases content with
  | list items => nofun
  | text bytes =>
    rw [holding]
    cases Text.decodeUtf8 bytes with
    | error f => nofun
    | ok t => cases hdecode : ScanJob.decode t <;> simp [hdecode]

theorem holds_iff {job : ScanJob} : content.Holds job ↔ content.holding = .kept job := by
  cases content with
  | list items => exact ⟨False.elim, nofun⟩
  | text bytes =>
    rw [holding, Holds]
    cases Text.decodeUtf8 bytes with
    | error f => simp
    | ok t => cases hdecode : ScanJob.decode t <;> simp [hdecode]

theorem isCorrupt_iff :
    content.IsCorrupt ↔ (∃ r, content.holding = .rejected r) ∨ ∃ f, content.holding = .garbled f := by
  cases content with
  | list items => exact ⟨False.elim, by rintro (⟨r, ⟨⟩⟩ | ⟨f, ⟨⟩⟩)⟩
  | text bytes =>
    rw [holding, IsCorrupt]
    cases Text.decodeUtf8 bytes with
    | error f => simp
    | ok t => cases hdecode : ScanJob.decode t <;> simp [hdecode]

theorem isList_iff : content.IsList ↔ content.holding = .foreign := by
  cases content with
  | list items => exact ⟨fun _ => rfl, fun _ => trivial⟩
  | text bytes =>
    rw [holding, IsList]
    cases Text.decodeUtf8 bytes with
    | error f => simp
    | ok t => cases hdecode : ScanJob.decode t <;> simp [hdecode]

end Content

/-- Exactly when a call has which outcome, by what was stored. -/
structure Call.Classifies (call : Call) (stored : Option Entry) (o : Outcome Answer) : Prop where
  created : ∀ job, call = .create job → (o = .value .created ↔ stored = none)
  conflict : ∀ job, call = .create job → (o.IsError .conflict ↔ stored ≠ none)
  absent : call = .get → (o = .value (.found none) ↔ stored = none)
  found : call = .get → ∀ job, o = .value (.found (some job)) ↔ ∃ e ∈ stored, e.content.Holds job
  notFound : ∀ u, call = .update u → (o.IsError .notFound ↔ stored = none)
  updated : ∀ u, call = .update u → ∀ job, (∃ e ∈ stored, e.content.Holds job) → o = .value (.updated (u.apply job))
  corruption : call.reads = true → (o.IsError .corruption ↔ ∃ e ∈ stored, e.content.IsCorrupt)
  storage : call.reads = true → (o.IsError .storage ↔ ∃ e ∈ stored, e.content.IsList)

/-- On whatever is stored, a call has the outcome and the kind of error that go with it. -/
theorem Call.classifies_verdict (call : Call) (id : String) (stored : Option Entry) :
    call.Classifies stored (call.verdict id (Entry.holding stored)) := by
  cases stored with
  | none =>
    cases call <;> constructor <;>
      simp [verdict, Entry.holding, Holding.read, Outcome.IsError, JobStore.notFound, reads]
  | some e =>
    have hkept := @Content.holds_iff e.content
    have hcorrupt := @Content.isCorrupt_iff e.content
    have hlist := @Content.isList_iff e.content
    rw [Entry.holding, Option.elim_some]
    have hsome := @Content.holding_ne_nothing e.content
    generalize e.content.holding = holding at hkept hcorrupt hlist hsome ⊢
    cases holding with
    | nothing => exact absurd rfl hsome
    | _ => cases call <;> constructor <;>
        simp [verdict, Holding.read, Outcome.IsError, JobStore.taken, JobStore.corrupted, JobStore.garbled,
          JobStore.foreign, JobStore.unavailable, reads, hkept, hcorrupt, hlist]

/-! ## Trials -/

namespace Trial

variable {caller : Caller} {id : String} {c : Circumstances} {w₀ w : Trial} {k : Progress} {o : Outcome Answer}

/-- A call that has met with no fault has come to what goes with what was stored. -/
theorem Knows.verdict (h : Knows caller (caller.store.keyFor (caller.call.on id)) c w₀ k w)
    (hends : caller.Ends (caller.call.on id) k o) (hquiet : ∀ f, ¬ Met c w₀ w f)
    (htime : caller.store.late? caller.timeout = none) (hattempts : 1 ≤ caller.store.maxUpdateRetries)
    (hreport : ∀ report ∈ caller.call.report?, report.fault? = none) :
    o = caller.call.verdict (caller.call.on id)
      (Entry.holding (w₀.server.find? (caller.store.keyFor (caller.call.on id)))) := by
  cases hends with
  | late hlimit =>
    rw [htime] at hlimit
    cases hlimit
  | broken f timing =>
    obtain ⟨hcall, fault, rfl, hread⟩ := h.fits.resolve_left (hquiet f)
    rcases Server.holding_of_read_error hread with ⟨f, hholding, rfl⟩ | ⟨hholding, rfl⟩
    · rw [hholding, JobStore.told_garbled]
      exact (Call.verdict_of_error hcall rfl).symm
    · rw [hholding, Server.wrongType, JobStore.told_unavailable]
      exact (Call.verdict_of_error hcall rfl).symm
  | @unwritableJob job f hcall hencode =>
    rw [hcall] at hreport
    rw [ScanJob.encode_of_fault? (Option.bind_eq_none_iff.2 hreport)] at hencode
    cases hencode
  | created hcall =>
    obtain ⟨text, -, hfree, -⟩ := h.fits
    rw [hfree, hcall]
    rfl
  | taken hcall =>
    obtain ⟨e, hfind⟩ := h.fits
    rw [hfind, hcall]
    exact (Call.verdict_create_of_ne Content.holding_ne_nothing).symm
  | notFound hcall | absent hcall =>
    have hfree : w₀.server.find? _ = none := h.fits
    rw [hfree, hcall]
    rfl
  | found hcall hdecode =>
    have hholding := (Server.holding_of_read_some (h.fits.2.1 _ rfl).2).1 _ hdecode
    rw [hholding, hcall]
    rfl
  | corrupted hdecode =>
    obtain ⟨hcall, hread⟩ := h.fits.2.1 _ rfl
    rw [(Server.holding_of_read_some hread).2 _ hdecode]
    exact (Call.verdict_of_error hcall rfl).symm
  | gone hcall => exact h.fits.elim
  | unwritableUpdate hcall hdecode hencode =>
    rw [hcall] at hreport
    have hfault := Update.fault?_apply (Update.fault?_eq_none hreport) (ScanJob.fault?_of_decode hdecode)
    rw [ScanJob.encode_of_fault? hfault] at hencode
    cases hencode
  | updated hcall hdecode =>
    obtain ⟨text, -, hread, -⟩ := h.fits
    have hholding := (Server.holding_of_read_some hread).1 _ hdecode
    rw [hholding, hcall]
    rfl
  | gaveUp hcall =>
    obtain ⟨f, hf⟩ := h.fits.2.2 (by omega)
    exact absurd hf (hquiet f)

/-- From now on no command fails, and the calls of the store have what they need: time, an attempt, a lifetime, and a
clock that can tell its end. -/
structure Undisturbed (s : JobStore) (timeout : Option Number) (c : Circumstances) (w : Trial) : Prop where
  ttl : 1 ≤ s.ttl.wholeSeconds
  attempts : 1 ≤ s.maxUpdateRetries
  time : s.late? timeout = none
  clock : w.Tells c s.ttl.wholeSeconds
  quiet : ∀ n, w.asked ≤ n → c.faults n = none

/-- An undisturbed call comes to what goes with what is stored. -/
theorem Undisturbed.verdict (caller : Caller) (id : String) (h : Undisturbed caller.store caller.timeout c w)
    (hreport : ∀ report ∈ caller.call.report?, report.fault? = none) :
    (w.run c (caller.store.keyFor (caller.call.on id)) (caller.program (caller.call.on id))).1 =
      caller.call.verdict (caller.call.on id)
        (Entry.holding (w.server.find? (caller.store.keyFor (caller.call.on id)))) := by
  obtain ⟨k, hends, hknows⟩ := ends_call caller id c w h.ttl h.clock
  refine hknows.verdict hends ?_ h.time h.attempts hreport
  rintro f ⟨n, hn, -, hf⟩
  rw [h.quiet n hn] at hf
  cases hf

theorem Undisturbed.verdict_of_map {α : Type} {g : α → Answer} {p : Program α} (caller : Caller) (id : String)
    (h : Undisturbed caller.store caller.timeout c w) (hreport : ∀ report ∈ caller.call.report?, report.fault? = none)
    (hp : caller.program (caller.call.on id) = g <$> p) :
    (w.run c (caller.store.keyFor (caller.call.on id)) p).1.map g =
      caller.call.verdict (caller.call.on id)
        (Entry.holding (w.server.find? (caller.store.keyFor (caller.call.on id)))) := by
  have hverdict := h.verdict caller id hreport
  rw [hp, Trial.run, Program.run_map] at hverdict
  exact hverdict

/-- A call that has met with a fault of the server, other than a crossing, has come to that. -/
theorem Knows.unavailable {key : String} {kind : ServerFault} {message : String} (h : Knows caller key c w₀ k w)
    (hends : caller.Ends id k o) (hmet : Met c w₀ w (.fault (.server kind message))) (hkind : kind ≠ .watch) :
    o = .failed (.store (JobStore.unavailable caller.call.operation id kind message)) := by
  have hcrossing : ¬ (Failure.fault (.server kind message)).IsCrossing := by
    cases kind with
    | watch => exact absurd rfl hkind
    | _ => exact not_false
  obtain rfl := (h.met _ hmet).resolve_left hcrossing
  cases hends with
  | broken _ timing => rw [JobStore.told_unavailable]

/-- **Errors tell what is stored, and leave it as it is.** Whatever there is under the key, a call that meets with no
fault comes to what goes with that, and to each kind of error exactly where it should. A call that meets with a fault
of the server, whichever of its commands that is, fails with the error of the store that has the fault as its cause.
And a call that fails for whatever reason has changed nothing, neither what is stored nor when it ends. -/
theorem errors_leave_store (caller : Caller) (id : String) (c : Circumstances) (server : Server)
    (hlife : caller.store.ttl.HasSecond) (hattempts : 1 ≤ caller.store.maxUpdateRetries)
    (htime : caller.store.late? caller.timeout = none)
    (hclock : (start server).Tells c caller.store.ttl.wholeSeconds)
    (hreport : ∀ report ∈ caller.call.report?, report.fault? = none) :
    let job := caller.call.on id
    let key := caller.store.keyFor job
    let ran := (start server).run c key (caller.program job)
    ((∀ n < ran.2.asked, c.faults n = none) →
      ran.1 = caller.call.verdict job (Entry.holding (server.find? key)) ∧
        caller.call.Classifies (server.find? key) ran.1) ∧
    (∀ n < ran.2.asked, ∀ kind ≠ .watch, ∀ message, c.faults n = some (.fault (.server kind message)) →
      ran.1 = .failed (.store (JobStore.unavailable caller.call.operation job kind message))) ∧
    ∀ f, ran.1 = .failed f →
      ran.2.server = { server with now := ran.2.server.now } ∧ ran.2.server.find? key = server.find? key := by
  intro job key ran
  obtain ⟨k, hends, hknows⟩ := ends_call caller id c (start server) hlife.one_le hclock
  refine ⟨fun hquiet => ?_, fun n hn kind hkind message hfault => ?_, fun f hfailed => ?_⟩
  · have hunmet : ∀ f, ¬ Met c (start server) ran.2 f := by
      rintro f ⟨n, -, hn, hf⟩
      rw [hquiet n hn] at hf
      cases hf
    have hverdict : ran.1 = _ := hknows.verdict hends hunmet htime hattempts hreport
    refine ⟨hverdict, ?_⟩
    rw [hverdict]
    exact Call.classifies_verdict _ _ _
  · exact hknows.unavailable hends ⟨n, Nat.zero_le n, hn, hfault⟩ hkind
  · have hunwritten : ∀ before, k ≠ .written before := by
      rintro before rfl
      change caller.Ends job _ ran.1 at hends
      rw [hfailed] at hends
      cases hends
    exact ⟨hknows.untouched hunwritten, hknows.kept hunwritten⟩

/-- Circumstances in which one command may fail, and time stands still. -/
def failingAt (number : Option Nat) : Circumstances where
  faults n := if number = some n then some (.fault (.server .connection "lost")) else none
  pauses _ := 0
  clock := ⟨2024, 5, 1, 12, 30, 0, 0, none, by decide⟩
  scan := .ok []

/-- An update of a key that holds no text, without a fault and with one where the key is read. -/
theorem errors_leave_store_garbled :
    let caller : Caller := ⟨JobStore.sampleStore, .update (.moveTo .failed none), none⟩
    let server : Server := ⟨1714566600, [("harbor:scan-job:job-1", ⟨.text [255], none⟩)], []⟩
    let ran := fun number => (start server).run (failingAt number) "harbor:scan-job:job-1" (caller.program "job-1")
    (ran none).1.IsError .corruption ∧
      (ran (some 1)).1 = .failed (.store (JobStore.unavailable .updateStatus "job-1" .connection "lost")) ∧
      (ran (some 1)).2.server.find? "harbor:scan-job:job-1" = server.find? "harbor:scan-job:job-1" := by
  intro caller server ran
  have hall := fun number => errors_leave_store caller "job-1" (failingAt number) server
    (show 1 ≤ (3600 : Int) by decide) (by decide) rfl (tells_of_still (fun _ => rfl) ⟨by decide, by decide⟩) nofun
  have hfailed := (hall (some 1)).2.1 1 (by decide) .connection nofun "lost" rfl
  refine ⟨?_, hfailed, ((hall (some 1)).2.2 _ hfailed).2⟩
  have hgarbled : ∃ f, Text.decodeUtf8 [255] = .error f := by
    rw [Text.decodeUtf8, Text.decodeFrom]
    exact ⟨_, rfl⟩
  have hcorruption : (ran none).1.IsError .corruption ↔ _ := ((hall none).1 fun n _ => rfl).2.corruption rfl
  rw [hcorruption]
  exact ⟨_, rfl, .inl hgarbled⟩

end Trial

end ScanAdapter
