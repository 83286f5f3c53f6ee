import ScanAdapter.Proofs.Service.Standing
import ScanAdapter.Proofs.Store.Crowd

/-!
# The life of a record

Any number of clients submit, run and look at one job, and nobody else writes its record. Runs may overlap, scans and
commands may fail, and the record may go away and be submitted again. A failed record always has an error. As long as
the record does not go away, it keeps to its life: it is queued only before all else, a finished record has a report,
and an error or a report that is there stays.

The invariant goes through what each client knows (`Standing`): a run that has started, or has given the job a report,
knows that of the record, unless the record has gone away since (`Standing.Founded`).
-/
namespace ScanAdapter

/-! ## Jobs -/

namespace ScanJob

/-- A failed job has an error. -/
def Explained (job : ScanJob) : Prop := job.status = .failed → job.error ≠ none

/-- A finished job has a report, and a queued one has nothing yet. -/
structure Coherent (job : ScanJob) : Prop where
  finished : job.status = .finished → job.report ≠ none
  queued : job.status = .queued → job.error = none ∧ job.report = none

/-- The job may become the other one: it is not queued again, and keeps an error and a report. -/
structure Precedes (job later : ScanJob) : Prop where
  status : later.status = .queued → job.status = .queued
  error : job.error ≠ none → later.error ≠ none
  report : job.report ≠ none → later.report ≠ none

theorem Precedes.refl (job : ScanJob) : job.Precedes job := ⟨fun h => h, fun h => h, fun h => h⟩

theorem Precedes.trans {a b c : ScanJob} (h : a.Precedes b) (h' : b.Precedes c) : a.Precedes c :=
  ⟨h.status ∘ h'.status, h'.error ∘ h.error, h'.report ∘ h.report⟩

theorem report_settled_ne_none {job : ScanJob} : job.settled.report ≠ none ↔ job.report ≠ none := by
  rw [settled, Ne, Option.map_eq_none_iff]

end ScanJob

namespace Standing

variable {k : Standing} {u : Update} {job : ScanJob}

/-- What the client knows of the job. -/
structure Founded (k : Standing) (job : ScanJob) : Prop where
  started : k.started = true → job.status ≠ .queued
  attached : k.attached = true → job.report ≠ none

theorem Founded.mono {later : ScanJob} (h : k.Founded job) (hlater : job.Precedes later) : k.Founded later :=
  ⟨fun hstarted => h.started hstarted ∘ hlater.status, fun hattached => hlater.report (h.attached hattached)⟩

namespace Legal

theorem explained (h : k.Legal u) (hjob : job.Explained) : (u.apply job).settled.Explained := by
  cases h with
  | pending | finished _ => nofun
  | report _ _ => exact hjob
  | failed _ message => nofun

theorem precedes (h : k.Legal u) : job.Precedes (u.apply job).settled := by
  cases h with
  | pending | finished _ => exact ⟨nofun, id, ScanJob.report_settled_ne_none.2⟩
  | report _ _ => exact ⟨id, id, fun _ => nofun⟩
  | failed _ message => exact ⟨nofun, fun _ => nofun, ScanJob.report_settled_ne_none.2⟩

/-- What comes before an update of a run is enough for the job to be coherent after it. -/
theorem coherent (h : k.Legal u) (hk : k.Founded job) : (u.apply job).settled.Coherent := by
  cases h with
  | pending => exact ⟨nofun, nofun⟩
  | report hstarted _ => exact ⟨fun _ => nofun, fun hqueued => absurd hqueued (hk.started hstarted)⟩
  | finished hattached => exact ⟨fun _ => ScanJob.report_settled_ne_none.2 (hk.attached hattached), nofun⟩
  | failed _ message => exact ⟨nofun, nofun⟩

/-- After an update of a run the job is not queued. -/
theorem status_ne_queued (h : k.Legal u) (hk : k.Founded job) : (u.apply job).settled.status ≠ .queued := by
  cases h with
  | pending | finished _ | failed _ _ => nofun
  | report hstarted _ => exact hk.started hstarted

end Legal

/-! ## The record and a client -/

/-- What the client has read is there still, or nothing is, as long as the mark stands. -/
def Current (k : Standing) (s : Server) (key : String) : Prop :=
  ∀ m, k.mark = some m → m ≤ s.mark key ∧
    (s.mark key = m → ∀ text, k.held = some text → s.find? key = none ∨ s.read key = .ok (some text))

/-- What the client knows of the record. -/
def FoundedOn (k : Standing) (s : Server) (key : String) : Prop :=
  k.started = true ∨ k.attached = true → ∃ job, s.Records key job ∧ k.Founded job

end Standing

/-- What a request of a client that knows `k` may do to the key, and what may happen to it otherwise. -/
inductive Server.Shift (key : String) (k : Standing) (s s' : Server) : Prop
  | same (hfind : s'.find? key = s.find? key) (hmark : s'.mark key = s.mark key)
  | gone (hfind : s'.find? key = none) (hmark : s.mark key ≤ s'.mark key)
  | created (hfree : s.find? key = none) (hmark : s.mark key < s'.mark key) {id : String}
    (hrecord : s'.Records key (ScanJob.queued id))
  | updated (hmark : s.mark key < s'.mark key) {u : Update} {job : ScanJob} (hlegal : k.Legal u)
    (hbefore : s.Records key job) (hafter : s'.Records key (u.apply job).settled)

namespace Server

variable {s s' : Server} {key : String} {k k' : Standing} {job : ScanJob}

theorem Records.find? (h : s.Records key job) : ∃ e, s.find? key = some e := by
  obtain ⟨text, hread, -⟩ := h
  exact find?_of_read_some hread

theorem records_put {text : String} {seconds : Int} (hseconds : 0 ≤ seconds) (hjob : job.Storable)
    (hencode : job.encode = .ok text) : (s.put key (s.textFor text seconds)).Records key job.settled :=
  ⟨text, read_put_textFor hseconds, hjob.decode_of_encode hencode⟩

/-- A commit of a client that has read the record changes it by a legal update. -/
theorem shift_answer {q : Request} (hmay : k.May key q) (hq : q.isCommand = true) (hcurrent : k.Current s key) :
    Shift key k s (s.answer q).2 := by
  cases q with
  | currentTime | startTimer _ | stopTimer | scan => cases hq
  | read _ | watch _ | readWatched _ => exact .same rfl rfl
  | setIfAbsent key text seconds =>
    obtain ⟨rfl, id, hencode⟩ := hmay
    rcases s.answer_setIfAbsent_cases key text seconds with hsame | ⟨hput, hfree, hseconds⟩
    · rw [hsame]
      exact .same rfl rfl
    · rw [hput]
      have hmark : s.mark key < (s.put key (s.textFor text seconds)).mark key := by
        rw [mark_put_self]
        omega
      have hstorable : (ScanJob.queued id).Storable := nofun
      exact .created hfree hmark (records_put hseconds hstorable hencode)
  | commit key m text seconds =>
    obtain ⟨rfl, hkm, u, before, job, hlegal, hheld, hdecode, hencode⟩ := hmay
    rcases s.answer_commit_cases key m text seconds with hsame | ⟨hput, hmark, ⟨e, hfind⟩, hseconds⟩
    · rw [hsame]
      exact .same rfl rfl
    · rw [hput]
      have hread : s.read key = .ok (some before) :=
        ((hcurrent m hkm).2 hmark before hheld).resolve_left (by rw [hfind]; nofun)
      have hmark' : s.mark key < (s.put key (s.textFor text seconds)).mark key := by
        rw [mark_put_self]
        omega
      have hjob := hlegal.storable.apply (ScanJob.storable_of_decode hdecode)
      exact .updated hmark' hlegal ⟨before, hread, hdecode⟩ (records_put hseconds hjob hencode)

theorem shift_advance (seconds : Nat) : Shift key k s (s.advance seconds) := by
  rcases s.find?_advance_cases key seconds with hgone | hsame
  · exact .gone hgone le_rfl
  · exact .same hsame rfl

theorem shift_vanish (other : String) (noticed : Bool) : Shift key k s (s.vanish other noticed) := by
  have hfind := s.find?_vanish other key noticed
  by_cases hkey : key = other
  · rw [if_pos hkey] at hfind
    refine .gone hfind ?_
    cases noticed with
    | false => exact le_rfl
    | true => exact (List.sublist_cons_self other s.changes).count_le key
  · rw [if_neg hkey] at hfind
    refine .same hfind ?_
    cases noticed with
    | false => rfl
    | true => exact List.count_cons_of_ne (Ne.symm hkey)

namespace Shift

variable (h : Shift key k s s')
include h

/-- What a client knows of a key is true after any shift. -/
theorem current (hcurrent : k'.Current s key) : k'.Current s' key := by
  intro m hm
  obtain ⟨hle, htext⟩ := hcurrent m hm
  cases h with
  | same hfind hmark =>
    rw [hmark, hfind, read_congr hfind]
    exact ⟨hle, htext⟩
  | gone hfind hmark => exact ⟨hle.trans hmark, fun _ _ _ => .inl hfind⟩
  | created _ hmark _ => exact ⟨by omega, fun heq => by omega⟩
  | updated hmark _ _ _ => exact ⟨by omega, fun heq => by omega⟩

/-- A record that does not go away becomes what it may become. -/
theorem precedes (hlasts : (s.find? key).isSome → (s'.find? key).isSome) (hrecord : s.Records key job) :
    ∃ later, s'.Records key later ∧ job.Precedes later := by
  obtain ⟨e, hfind⟩ := hrecord.find?
  cases h with
  | same hsame _ => exact ⟨job, hrecord.congr hsame, .refl job⟩
  | gone hgone _ =>
    rw [hfind, hgone] at hlasts
    cases hlasts rfl
  | created hfree _ _ =>
    rw [hfind] at hfree
    cases hfree
  | updated _ hlegal hbefore hafter =>
    obtain rfl := hbefore.unique hrecord
    exact ⟨_, hafter, hlegal.precedes⟩

theorem foundedOn (hlasts : (s.find? key).isSome → (s'.find? key).isSome) (hk : k'.FoundedOn s key) :
    k'.FoundedOn s' key := by
  intro hcome
  obtain ⟨job, hrecord, hfounded⟩ := hk hcome
  obtain ⟨later, hlater, hprecedes⟩ := h.precedes hlasts hrecord
  exact ⟨later, hlater, hfounded.mono hprecedes⟩

end Shift

end Server

/-! ## Answers -/

namespace Standing

variable {key : String} {k k' : Standing} {s : Server}

theorem Within.current (h : k.Within k') (hcurrent : k.Current s key) : k'.Current s key := by
  intro m hm
  have hkm : k.mark = some m := h.mark.elim (fun hmark => hmark ▸ hm) fun hnone => by rw [hnone] at hm; cases hm
  refine ⟨(hcurrent m hkm).1, fun hmark text htext => (hcurrent m hkm).2 hmark text ?_⟩
  exact h.held.elim (fun hheld => hheld ▸ htext) fun hnone => by rw [hnone] at htext; cases htext

/-- A client that has done nothing knows nothing of the record. -/
theorem foundedOn_fresh : fresh.FoundedOn s key := by
  rintro (hstarted | hattached)
  · cases hstarted
  · cases hattached

theorem FoundedOn.founded {job : ScanJob} (h : k.FoundedOn s key) (hrecord : s.Records key job) : k.Founded job := by
  constructor
  · intro hstarted
    obtain ⟨job', hrecord', hk⟩ := h (.inl hstarted)
    exact hrecord'.unique hrecord ▸ hk.started hstarted
  · intro hattached
    obtain ⟨job', hrecord', hk⟩ := h (.inr hattached)
    exact hrecord'.unique hrecord ▸ hk.attached hattached

theorem FoundedOn.congr (h : k.FoundedOn s key) (hstarted : k'.started = k.started)
    (hattached : k'.attached = k.attached) : k'.FoundedOn s key := by
  rw [FoundedOn, hstarted, hattached]
  intro hcome
  obtain ⟨job, hrecord, hk⟩ := h hcome
  exact ⟨job, hrecord, ⟨fun h => hk.started (hstarted ▸ h), fun h => hk.attached (hattached ▸ h)⟩⟩

theorem Within.foundedOn (h : k.Within k') (hfounded : k.FoundedOn s key) : k'.FoundedOn s key :=
  hfounded.congr h.started h.attached

/-- Whatever is no command tells nothing of the key, nor does a command that fails. -/
theorem Learns.within {q : Request} {o : Outcome q.Reply} (h : Learns k q o k')
    (ho : q.isCommand = false ∨ ∃ f, o = .failed f) : k.Within k' := by
  rcases ho with hq | ⟨f, rfl⟩
  · cases q with
    | setIfAbsent _ _ _ | read _ | watch _ | readWatched _ | commit _ _ _ _ => cases hq
    | currentTime | startTimer _ | stopTimer | scan => exact h
  · cases q <;> exact h

/-- What a client learns from an answer is so. -/
theorem Learns.current {q : Request} (hmay : k.May key q) (hcurrent : k.Current (s.answer q).2 key)
    (h : Learns k q (s.answer q).1 k') : k'.Current (s.answer q).2 key := by
  cases q with
  | currentTime | startTimer _ | stopTimer | scan | setIfAbsent _ _ _ | read _ => exact Within.current h hcurrent
  | watch key =>
    obtain rfl := hmay
    obtain ⟨-, -, hheld, hmark⟩ := h
    intro m hm
    rw [hheld]
    refine ⟨?_, fun _ _ => nofun⟩
    rcases hmark with hmark | hmark
    · rw [hm] at hmark
      cases hmark
      exact le_rfl
    · exact (hcurrent m (hmark ▸ hm)).1
  | readWatched key =>
    obtain rfl := hmay
    cases hread : s.read key with
    | error fault =>
      rw [Server.answer_readWatched_error hread] at h
      exact Within.current h hcurrent
    | ok held =>
      rw [Server.answer_readWatched hread] at h
      obtain rfl := h
      intro m hm
      refine ⟨(hcurrent m hm).1, fun _ text htext => .inr ?_⟩
      obtain rfl : held = some text := htext
      exact hread
  | commit key m text seconds =>
    rcases s.commit_cases key m text seconds with ⟨f, hset⟩ | hset | ⟨hset, -⟩
    · rw [Server.answer_commit hset] at h
      exact Within.current h hcurrent
    · rw [Server.answer_commit hset] at h
      exact Within.current h hcurrent
    · rw [Server.answer_commit hset] at h
      obtain rfl := h
      exact nofun

/-- What a client has done is done. -/
theorem Learns.foundedOn {q : Request} (hmay : k.May key q) (hcurrent : k.Current s key) (hbefore : k.FoundedOn s key)
    (hafter : k.FoundedOn (s.answer q).2 key) (h : Learns k q (s.answer q).1 k') :
    k'.FoundedOn (s.answer q).2 key := by
  cases q with
  | currentTime | startTimer _ | stopTimer | scan | setIfAbsent _ _ _ | read _ => exact Within.foundedOn h hafter
  | watch key => exact hafter.congr h.1 h.2.1
  | readWatched key =>
    cases hread : s.read key with
    | error fault =>
      rw [Server.answer_readWatched_error hread] at h
      exact Within.foundedOn h hafter
    | ok held =>
      rw [Server.answer_readWatched hread] at h
      obtain rfl := h
      exact hafter.congr rfl rfl
  | commit key m text seconds =>
    obtain ⟨rfl, hkm, u, before, job, hlegal, hheld, hdecode, hencode⟩ := hmay
    rcases s.commit_cases key m text seconds with ⟨f, hset⟩ | hset | ⟨hset, hmark, ⟨e, hfind⟩, hseconds⟩
    · rw [Server.answer_commit hset] at h hafter ⊢
      exact Within.foundedOn h hafter
    · rw [Server.answer_commit hset] at h hafter ⊢
      exact Within.foundedOn h hafter
    · rw [Server.answer_commit hset] at h ⊢
      obtain rfl := h
      have hread : s.read key = .ok (some before) :=
        ((hcurrent m hkm).2 hmark before hheld).resolve_left (by rw [hfind]; nofun)
      have hk : k.Founded job := hbefore.founded ⟨before, hread, hdecode⟩
      have hjob := hlegal.storable.apply (ScanJob.storable_of_decode hdecode)
      refine fun _ => ⟨_, Server.records_put hseconds hjob hencode, fun _ => hlegal.status_ne_queued hk, ?_⟩
      intro hattached
      rcases Bool.or_eq_true_iff.1 hattached with hattached | hreport
      · exact hlegal.precedes.report (hk.attached hattached)
      · rw [ScanJob.hasReport_of_decode (hjob.decode_of_encode hencode)] at hreport
        exact Option.isSome_iff_ne_none.1 hreport

end Standing

/-! ## Clients -/

/-- What a client of the service is after. -/
inductive Task
  | submit
  | run (artifact : Artifact)
  | getReport
  deriving DecidableEq, Repr

/-- What a task has come to. -/
inductive Product
  | submitted (job : ScanJob)
  | ran (report : ScanReport)
  | looked (report : Option ScanReport)
  deriving Repr

structure Worker where
  service : Service
  task : Task
  deriving DecidableEq, Repr

namespace Worker

def program (w : Worker) (id : String) : Program Product :=
  match w.task with
  | .submit => Product.submitted <$> w.service.submit id
  | .run artifact => Product.ran <$> w.service.run id artifact
  | .getReport => Product.looked <$> w.service.getReport id

theorem follows_program (w : Worker) (id : String) :
    (w.program id).Follows (Standing.protocol (w.service.store.keyFor id)) (fun _ _ => True) .fresh := by
  unfold program
  cases w.task with
  | submit => exact (Service.follows_submit .fresh).map
  | run artifact => exact (Service.follows_run artifact .fresh).map
  | getReport => exact (Service.follows_getReport .fresh).map

end Worker

namespace Crowd

open Standing

variable {ι α : Type} {key : String} {fixed : Prop} {standings : ι → Standing} {c c' : Crowd ι α}

/-- The record does not go away. -/
def Lasts (key : String) (c c' : Crowd ι α) : Prop :=
  (c.server.find? key).isSome → (c'.server.find? key).isSome

/-- What holds at all times. What rests on the record never having gone away is asked for only if that is `fixed`. -/
structure Lives (key : String) (fixed : Prop) (standings : ι → Standing) (c : Crowd ι α) : Prop where
  follows : ∀ i, (c.programs i).Follows (protocol key) (fun _ _ => True) (standings i)
  current : ∀ i, (standings i).Current c.server key
  founded : fixed → ∀ i, (standings i).FoundedOn c.server key
  record : ∀ e, c.server.find? key = some e →
    ∃ job, c.server.Records key job ∧ job.Explained ∧ (fixed → job.Coherent)

namespace Lives

/-- The key is shifted by what a client may do that knows `k`, or by what happens to it otherwise. -/
theorem shift {k : Standing} (h : Lives key fixed standings c) (hprograms : c'.programs = c.programs)
    (hshift : Server.Shift key k c.server c'.server) (hk : fixed → k.FoundedOn c.server key)
    (hlasts : fixed → Lasts key c c') : Lives key fixed standings c' where
  follows := hprograms ▸ h.follows
  current j := hshift.current (h.current j)
  founded hfixed j := hshift.foundedOn (hlasts hfixed) (h.founded hfixed j)
  record e he := by
    cases hshift with
    | same hfind _ =>
      obtain ⟨job, hrecord, hjob⟩ := h.record e (hfind.symm.trans he)
      exact ⟨job, hrecord.congr hfind, hjob⟩
    | gone hfind _ =>
      rw [hfind] at he
      cases he
    | created _ _ hrecord => exact ⟨_, hrecord, nofun, fun _ => ⟨nofun, fun _ => ⟨rfl, rfl⟩⟩⟩
    | @updated _ u job hlegal hbefore hafter =>
      obtain ⟨e', hfind⟩ := hbefore.find?
      obtain ⟨job', hrecord, hexplained, -⟩ := h.record e' hfind
      obtain rfl := hrecord.unique hbefore
      exact ⟨_, hafter, hlegal.explained hexplained, fun hfixed =>
        hlegal.coherent ((hk hfixed).founded hbefore)⟩

/-- A client that is about to ask for something may do so. -/
theorem asks {i : ι} {q : Request} {next : Outcome q.Reply → Program α} (h : Lives key fixed standings c)
    (hprogram : c.programs i = .ask q next) :
    (standings i).May key q ∧ ∀ o, q.MayBring o →
      ∃ k, (standings i).Learns q o k ∧ (next o).Follows (protocol key) (fun _ _ => True) k := by
  have hfollows := h.follows i
  rwa [hprogram] at hfollows

variable [DecidableEq ι]

/-- Client `i` goes on with what it knows then. -/
theorem resume {i : ι} {p : Program α} {k : Standing} (h : Lives key fixed standings c)
    (hp : p.Follows (protocol key) (fun _ _ => True) k) (hcurrent : k.Current c.server key)
    (hfounded : fixed → k.FoundedOn c.server key) :
    Lives key fixed (Function.update standings i k) (c.resume i p) where
  follows j := by
    by_cases hj : j = i
    · subst hj
      simp only [Crowd.resume, Function.update_self]
      exact hp
    · simp only [Crowd.resume, Function.update_of_ne hj]
      exact h.follows j
  current j := by
    by_cases hj : j = i
    · subst hj
      rw [Function.update_self]
      exact hcurrent
    · rw [Function.update_of_ne hj]
      exact h.current j
  founded hfixed j := by
    by_cases hj : j = i
    · subst hj
      rw [Function.update_self]
      exact hfounded hfixed
    · rw [Function.update_of_ne hj]
      exact h.founded hfixed j
  record := h.record

/-- A client that learns nothing of the key goes on. -/
theorem goOn {i : ι} {p : Program α} {k : Standing} (h : Lives key fixed standings c)
    (hp : p.Follows (protocol key) (fun _ _ => True) k) (hk : (standings i).Within k) :
    Lives key fixed (Function.update standings i k) (c.resume i p) :=
  h.resume hp (hk.current (h.current i)) fun hfixed => hk.foundedOn (h.founded hfixed i)

/-- **A step keeps the invariant**, and does to the record no more than a client may do to it. -/
theorem step {happening : Happening ι} (hstep : Step c happening c') (h : Lives key fixed standings c)
    (hlasts : fixed → Lasts key c c') :
    ∃ standings', Lives key fixed standings' c' ∧ ∃ k, Server.Shift key k c.server c'.server := by
  cases hstep with
  | tick seconds =>
    have hshift : Server.Shift key .fresh c.server (c.server.advance seconds) := Server.shift_advance seconds
    exact ⟨standings, h.shift rfl hshift (fun _ => foundedOn_fresh) hlasts, .fresh, hshift⟩
  | vanish other noticed =>
    have hshift : Server.Shift key .fresh c.server (c.server.vanish other noticed) := Server.shift_vanish other noticed
    exact ⟨standings, h.shift rfl hshift (fun _ => foundedOn_fresh) hlasts, .fresh, hshift⟩
  | @note i line next hprogram =>
    have hfollows := h.follows i
    rw [hprogram] at hfollows
    refine ⟨_, h.goOn (p := next) hfollows (.refl _), standings i, .same rfl rfl⟩
  | @bring i q next hprogram hq o ho =>
    obtain ⟨hmay, hnext⟩ := h.asks hprogram
    obtain ⟨k, hlearn, hthen⟩ := hnext o ho
    refine ⟨_, h.goOn hthen (hlearn.within (.inl hq)), standings i, .same rfl rfl⟩
  | @fail i q next hprogram hq f =>
    obtain ⟨hmay, hnext⟩ := h.asks hprogram
    obtain ⟨k, hlearn, hthen⟩ := hnext (.failed f) (Request.isTimer_of_isCommand hq)
    refine ⟨_, h.goOn hthen (hlearn.within (.inr ⟨f, rfl⟩)), standings i, .same rfl rfl⟩
  | @lose i q next hprogram hq f =>
    obtain ⟨hmay, hnext⟩ := h.asks hprogram
    obtain ⟨k, hlearn, hthen⟩ := hnext (.failed f) (Request.isTimer_of_isCommand hq)
    have hshift := Server.shift_answer hmay hq (h.current i)
    have hshifted : Lives key fixed standings { c with server := (c.server.answer q).2 } :=
      h.shift rfl hshift (fun hfixed => h.founded hfixed i) hlasts
    exact ⟨_, hshifted.goOn hthen (hlearn.within (.inr ⟨f, rfl⟩)), standings i, hshift⟩
  | @answer i q next hprogram hq =>
    obtain ⟨hmay, hnext⟩ := h.asks hprogram
    obtain ⟨k, hlearn, hthen⟩ := hnext _ (c.server.mayBring_answer hq)
    have hshift := Server.shift_answer hmay hq (h.current i)
    have hshifted : Lives key fixed standings (c.serve i q) :=
      h.shift rfl hshift (fun hfixed => h.founded hfixed i) hlasts
    refine ⟨_, hshifted.resume hthen (Learns.current hmay (hshifted.current i) hlearn) fun hfixed => ?_, standings i,
      hshift⟩
    exact Learns.foundedOn hmay (h.current i) (h.founded hfixed i) (hshifted.founded hfixed i) hlearn

end Lives

variable {workers : ι → Worker} {id : String} {server : Server}

/-- The clients of the service begin. -/
def working (server : Server) (workers : ι → Worker) (id : String) : Crowd ι Product :=
  start server fun i => (workers i).program id

theorem lives_working (hstores : ∀ i, (workers i).service.store.keyFor id = key) (hfree : server.find? key = none) :
    Lives key fixed (fun _ => .fresh) (working server workers id) where
  follows i := hstores i ▸ (workers i).follows_program id
  current _ := nofun
  founded _ _ := foundedOn_fresh
  record e he := by
    rw [working, start, hfree] at he
    cases he

variable [DecidableEq ι]

/-- One crowd comes of another, and the record does not go away. -/
def ReachesLasting (key : String) : Crowd ι α → Crowd ι α → Prop :=
  Relation.ReflTransGen fun c c' => (∃ h, Step c h c') ∧ Lasts key c c'

namespace ReachesLasting

variable {c c' : Crowd ι α}

theorem refl (key : String) (c : Crowd ι α) : ReachesLasting key c c := Relation.ReflTransGen.refl

theorem reaches (h : ReachesLasting key c c') : Reaches c c' :=
  Relation.ReflTransGen.mono (fun _ _ => And.left) _ _ h

/-- The record does not go away while the clients take turns. -/
theorem turns (f : Failure) (key : String) (c : Crowd ι α) (order : List ι) :
    ReachesLasting key c (c.turns f order) := by
  induction order generalizing c with
  | nil => exact .refl key c
  | cons i order ih =>
    rcases c.turn_cases f i with hsame | hstep
    · change ReachesLasting key c ((c.turn f i).turns f order)
      rw [hsame]
      exact ih c
    · exact Relation.ReflTransGen.head ⟨⟨_, hstep⟩, fun h => isSome_find?_turn h i⟩ (ih (c.turn f i))

end ReachesLasting

/-- Whatever happens, the invariant holds of what does not rest on the record never having gone away. -/
theorem lives_of_reaches {standings : ι → Standing} {c c' : Crowd ι α} (h : Lives key False standings c)
    (hreaches : Reaches c c') : ∃ standings', Lives key False standings' c' := by
  induction hreaches with
  | refl => exact ⟨standings, h⟩
  | tail _ hstep ih =>
    obtain ⟨happening, hstep⟩ := hstep
    obtain ⟨standings', hlives⟩ := ih
    obtain ⟨standings'', hlives', -⟩ := hlives.step hstep False.elim
    exact ⟨standings'', hlives'⟩

/-- As long as the record does not go away, the whole invariant holds, and a record becomes what it may become. -/
theorem lives_of_reachesLasting {standings : ι → Standing} {c c' : Crowd ι α} (h : Lives key fixed standings c)
    (hreaches : ReachesLasting key c c') :
    (∃ standings', Lives key fixed standings' c') ∧ ∀ job, c.server.Records key job →
      ∃ later, c'.server.Records key later ∧ job.Precedes later := by
  induction hreaches with
  | refl => exact ⟨⟨standings, h⟩, fun job hrecord => ⟨job, hrecord, .refl job⟩⟩
  | tail _ hstep ih =>
    obtain ⟨⟨happening, hstep⟩, hlasts⟩ := hstep
    obtain ⟨⟨standings', hlives⟩, hprecedes⟩ := ih
    obtain ⟨standings'', hlives', k, hshift⟩ := hlives.step hstep fun _ => hlasts
    refine ⟨⟨standings'', hlives'⟩, fun job hrecord => ?_⟩
    obtain ⟨later, hlater, hjob⟩ := hprecedes job hrecord
    obtain ⟨latest, hlatest, hthen⟩ := hshift.precedes hlasts hlater
    exact ⟨latest, hlatest, hjob.trans hthen⟩

/-- **The life of a record.** However clients submit, run and look at a job, and whatever fails: all that is ever
stored is a job, and if it is a failed one it has an error, even if records go away and are submitted again. As long
as the record has not gone away, a finished record has a report, and a queued one has neither error nor report. And
from any moment on, as long as the record does not go away, it is there, is not queued again, and keeps an error and a
report once it has one. -/
theorem life_of_record (workers : ι → Worker) (id : String) (server : Server)
    (hstores : ∀ i, (workers i).service.store.keyFor id = key) (hfree : server.find? key = none) :
    (∀ c, Reaches (working server workers id) c → ∀ e, c.server.find? key = some e →
      ∃ job, c.server.Records key job ∧ (job.status = .failed → job.error ≠ none)) ∧
    (∀ c, ReachesLasting key (working server workers id) c → ∀ job, c.server.Records key job →
      (job.status = .finished → job.report ≠ none) ∧
        (job.status = .queued → job.error = none ∧ job.report = none)) ∧
    ∀ c c', Reaches (working server workers id) c → ReachesLasting key c c' → ∀ job, c.server.Records key job →
      ∃ later, c'.server.Records key later ∧ (job.status ≠ .queued → later.status ≠ .queued) ∧
        (job.error ≠ none → later.error ≠ none) ∧ (job.report ≠ none → later.report ≠ none) := by
  refine ⟨fun c hreaches e hfind => ?_, fun c hreaches job hrecord => ?_, fun c c' hreaches hlasting job hrecord => ?_⟩
  · obtain ⟨standings, hlives⟩ := lives_of_reaches (lives_working hstores hfree) hreaches
    obtain ⟨job, hrecord, hexplained, -⟩ := hlives.record e hfind
    exact ⟨job, hrecord, hexplained⟩
  · have hstart : Lives key True _ (working server workers id) := lives_working hstores hfree
    obtain ⟨⟨standings, hlives⟩, -⟩ := lives_of_reachesLasting hstart hreaches
    obtain ⟨e, hfind⟩ := hrecord.find?
    obtain ⟨job', hrecord', -, hcoherent⟩ := hlives.record e hfind
    obtain rfl := hrecord'.unique hrecord
    exact ⟨(hcoherent trivial).finished, (hcoherent trivial).queued⟩
  · obtain ⟨standings, hlives⟩ := lives_of_reaches (lives_working hstores hfree) hreaches
    obtain ⟨later, hlater, hprecedes⟩ := (lives_of_reachesLasting hlives hlasting).2 job hrecord
    exact ⟨later, hlater, mt hprecedes.status, hprecedes.error, hprecedes.report⟩

/-- A client submits a job that another one is about to run. -/
def sampleWorkers (submits : Bool) : Worker where
  service := ⟨JobStore.sampleStore, ⟨"Trivy", "Aqua Security", "0.50.1"⟩⟩
  task := if submits then .submit else .run ⟨"library/alpine", "sha256:3f", some "3.19", none⟩

/-- One client submits the job, and two others run it. -/
def begun : Crowd (Fin 3) Product := working Server.empty (fun i => sampleWorkers (i == 0)) "job-1"

def imageNotFound : Failure := .fault (.other .runtime "image not found")

def submitted : Crowd (Fin 3) Product := begun.turns imageNotFound [0, 0, 0]

/-- The first run has come to its end. -/
def failed : Crowd (Fin 3) Product := submitted.turns imageNotFound (List.replicate 14 1)

/-- The second run has made its first update. -/
def rerun : Crowd (Fin 3) Product := failed.turns imageNotFound (List.replicate 4 2)

/-- The record is queued with nothing yet, failed with an error, and pending with that error once the job is run
again. -/
theorem life_of_record_rerun :
    let key := "harbor:scan-job:job-1"
    ReachesLasting key begun submitted ∧ ReachesLasting key submitted failed ∧ ReachesLasting key failed rerun ∧
    (∃ job, submitted.server.Records key job ∧ job.status = .queued ∧ job.error = none ∧ job.report = none) ∧
    (∃ job, failed.server.Records key job ∧ job.status = .failed ∧ job.error ≠ none) ∧
    ∃ later, rerun.server.Records key later ∧ later.status = .pending ∧ later.status ≠ .queued ∧
      later.error ≠ none := by
  intro key
  have hsubmitting : ReachesLasting key begun submitted := .turns _ _ _ _
  have hfailing : ReachesLasting key submitted failed := .turns _ _ _ _
  have hrerunning : ReachesLasting key failed rerun := .turns _ _ _ _
  have hreaches : Reaches begun failed := ReachesLasting.reaches (hsubmitting.trans hfailing)
  have hentries : submitted.server.find? key = some (JobStore.stored (.queued "job-1", 1714570200)) ∧
      failed.server.find? key =
        some (JobStore.stored (⟨"job-1", .failed, some "image not found", none⟩, 1714570200)) ∧
      rerun.server.find? key =
        some (JobStore.stored (⟨"job-1", .pending, some "image not found", none⟩, 1714570200)) := by decide +kernel
  have hstorable : ∀ status error, (ScanJob.mk "job-1" status error none).Storable := by rintro _ _ report ⟨⟩
  have hqueued := Server.Records.of_stored (hstorable _ _) hentries.1
  have hfailed := Server.Records.of_stored (hstorable _ _) hentries.2.1
  have hpending := Server.Records.of_stored (hstorable _ _) hentries.2.2
  have hstores : ∀ i : Fin 3, (sampleWorkers (i == 0)).service.store.keyFor "job-1" = key := fun _ => rfl
  obtain ⟨hexplained, hcoherent, hlasting⟩ := life_of_record _ "job-1" Server.empty hstores rfl
  obtain ⟨job, hrecord, herror⟩ := hexplained failed hreaches _ hentries.2.1
  obtain rfl := hrecord.unique hfailed
  obtain ⟨later, hlater, hstatus, hkept, -⟩ := hlasting failed rerun hreaches hrerunning _ hfailed
  obtain rfl := hlater.unique hpending
  exact ⟨hsubmitting, hfailing, hrerunning, ⟨_, hqueued, rfl, (hcoherent submitted hsubmitting _ hqueued).2 rfl⟩,
    ⟨_, hfailed, rfl, herror rfl⟩, _, hpending, rfl, hstatus nofun, hkept (herror rfl)⟩

end Crowd

end ScanAdapter
