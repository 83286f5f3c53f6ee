import ScanAdapter.Proofs.Store.Pool
import Mathlib.Data.List.Nodup
import Mathlib.Logic.Relation

/-!
# Clients that take turns

However the clients of a pool take turns, the key holds the job that was created with the updates that were
committed, each once and in the order of their commits, and a call that comes back has written as it says. A client
may hold a text that is long out of date, but then its watch has been left behind (`Session.Current`), and its commit
comes to nothing.
-/
namespace ScanAdapter

/-- What a client has read under a watch is what the key holds as long as the key is not changed. -/
def Session.Current (st : Session) (s : Server) (key : String) : Prop :=
  ∀ mark ∈ st.mark, mark ≤ s.mark key ∧ (mark = s.mark key → ∀ text ∈ st.held, s.read key = .ok (some text))

namespace Session

variable {st : Session} {s : Server} {key : String}

theorem current_of_unwatched {held : Option String} {wrote : Bool} : (⟨none, held, wrote⟩ : Session).Current s key :=
  nofun

/-- A write leaves every watch behind. -/
theorem Current.put (h : st.Current s key) (e : Entry) : st.Current (s.put key e) key := by
  intro mark hmark
  rw [Server.mark_put_self]
  have hle := (h mark hmark).1
  exact ⟨by omega, by omega⟩

end Session

/-! ## The invariant -/

namespace Pool

variable {ι : Type} {callers : ι → Caller} {initial : Option ScanJob} {key : String}
variable {p : Pool ι} {sessions : ι → Session} {i : ι} {st : Session}

/-- What holds of a pool at all times. -/
structure Inv (callers : ι → Caller) (initial : Option ScanJob) (key : String) (p : Pool ι)
    (sessions : ι → Session) : Prop where
  current : ∀ i, (sessions i).Current p.server key
  wrote : ∀ i, (sessions i).wrote = true ↔ i ∈ p.creations ++ p.commits
  creators : ∀ i ∈ p.creations, ∃ job, (callers i).call = .create job
  committers : ∀ i ∈ p.commits, ∃ u, (callers i).call = .update u
  first : p.creations = [] ∨ initial = none ∧ ∃ i, p.creations = [i]
  once : p.commits.Nodup
  unborn : p.record callers initial = none → p.creations = [] ∧ p.commits = []
  kept : p.server.Keeps key (p.record callers initial)

/-- The beginning keeps the invariant: nobody has seen or written anything. -/
theorem inv_start {server : Server} {id : String} (hkeeps : server.Keeps key initial) :
    Inv callers initial key (start server callers id) fun _ => {} where
  current _ := Session.current_of_unwatched
  wrote i := by simp [start]
  creators := nofun
  committers := nofun
  first := .inl rfl
  once := .nil
  unborn _ := ⟨rfl, rfl⟩
  kept := by
    have hrecord : (start server callers id).record callers initial = initial := by
      cases initial <;> rfl
    rwa [hrecord]

/-- A clock that does not run past the end of the key makes no difference. -/
theorem Inv.tick {seconds : Nat} (h : Inv callers initial key p sessions)
    (hfind : (p.server.advance seconds).find? key = p.server.find? key) :
    Inv callers initial key { p with server := p.server.advance seconds } sessions where
  current j := by
    intro mark hmark
    have hread : (p.server.advance seconds).read key = p.server.read key := by
      rw [Server.read, Server.read, hfind]
    refine ⟨(h.current j mark hmark).1, fun heq text htext => ?_⟩
    rw [hread]
    exact (h.current j mark hmark).2 heq text htext
  wrote := h.wrote
  creators := h.creators
  committers := h.committers
  first := h.first
  once := h.once
  unborn := h.unborn
  kept := by
    have hkept := h.kept
    change (p.server.advance seconds).Keeps key (p.record callers initial)
    cases hrecord : p.record callers initial with
    | none =>
      rw [hrecord] at hkept
      exact hfind.trans hkept
    | some job =>
      rw [hrecord] at hkept
      obtain ⟨text, e, hencode, he, hcontent⟩ := hkept
      exact ⟨text, e, hencode, hfind.trans he, hcontent⟩

/-- The clients go by the rules from their sessions on. -/
def Obeying (callers : ι → Caller) (key : String) (p : Pool ι) (sessions : ι → Session) : Prop :=
  ∀ i, Obeys key (callers i).call (Session.Ends fun st _ => st.wrote = (callers i).writes) (sessions i) (p.programs i)

/-- At the end of a call, what it comes to says whether it has written. -/
theorem Obeying.ended {o : Outcome Answer} (h : p.Obeying callers key sessions) (hdone : p.programs i = .done o) :
    Session.Ends (fun st _ => st.wrote = (callers i).writes) (sessions i) o := by
  have hi := h i
  rw [hdone] at hi
  cases hi with
  | done hends => exact hends

section

variable (h : Inv callers initial key p sessions) (hobeying : p.Obeying callers key sessions)
include h hobeying

theorem Inv.writer_of_value {a : Answer} (hdone : p.programs i = .done (.value a))
    (hwrites : (callers i).writes = true) : i ∈ p.creations ++ p.commits := by
  have hwrote : (sessions i).wrote = (callers i).writes := hobeying.ended hdone
  rw [← h.wrote i, hwrote, hwrites]

theorem Inv.not_writer_of_failed {f : Failure} (hdone : p.programs i = .done (.failed f)) (hcut : ¬ f.IsCut) :
    i ∉ p.creations ++ p.commits := by
  intro hi
  rcases hobeying.ended hdone with hf | hfresh
  · exact hcut hf
  · rw [← h.wrote i, hfresh] at hi
    cases hi

theorem Inv.commits_of_value {a : Answer} {u : Update} (hdone : p.programs i = .done (.value a))
    (hcall : (callers i).call = .update u) : i ∈ p.commits := by
  rcases List.mem_append.1 (h.writer_of_value hobeying hdone (by rw [Caller.writes, hcall])) with hi | hi
  · obtain ⟨job, hjob⟩ := h.creators i hi
    rw [hcall] at hjob
    cases hjob
  · exact hi

theorem Inv.creations_of_value {a : Answer} {job : ScanJob} (hdone : p.programs i = .done (.value a))
    (hcall : (callers i).call = .create job) : p.creations = [i] := by
  rcases List.mem_append.1 (h.writer_of_value hobeying hdone (by rw [Caller.writes, hcall])) with hi | hi
  · rcases h.first with hnone | ⟨-, j, hj⟩
    · rw [hnone] at hi
      cases hi
    · rw [hj, List.mem_singleton] at hi
      rw [hj, hi]
  · obtain ⟨u, hu⟩ := h.committers i hi
    rw [hcall] at hu
    cases hu

end

variable [DecidableEq ι]

namespace Inv

/-- A client that has seen more, but has written no more. -/
theorem look (h : Inv callers initial key p sessions) (hcurrent : st.Current p.server key)
    (hwrote : st.wrote = (sessions i).wrote) : Inv callers initial key p (Function.update sessions i st) where
  current j := by
    by_cases hj : j = i
    · subst hj
      rwa [Function.update_self]
    · rw [Function.update_of_ne hj]
      exact h.current j
  wrote j := by
    by_cases hj : j = i
    · subst hj
      rw [Function.update_self, hwrote]
      exact h.wrote j
    · rw [Function.update_of_ne hj]
      exact h.wrote j
  creators := h.creators
  committers := h.committers
  first := h.first
  once := h.once
  unborn := h.unborn
  kept := h.kept

/-- After a write the writer has written, and the watches of all others are left behind. -/
theorem current_put (h : Inv callers initial key p sessions) (hst : st.Current p.server key) (e : Entry) (j : ι) :
    (Function.update sessions i st j).Current (p.server.put key e) key := by
  by_cases hj : j = i
  · subst hj
    rw [Function.update_self]
    exact hst.put e
  · rw [Function.update_of_ne hj]
    exact (h.current j).put e

theorem wrote_put (h : Inv callers initial key p sessions) (hst : st.wrote = true) (j : ι) :
    (Function.update sessions i st j).wrote = true ↔ j ∈ p.creations ++ p.commits ∨ j = i := by
  by_cases hj : j = i
  · subst hj
    simp [hst]
  · rw [Function.update_of_ne hj, h.wrote j]
    simp [hj]

/-- A job is created where there is none. -/
theorem create {job : ScanJob} {text : String} {seconds : Int} (h : Inv callers initial key p sessions)
    (hcall : (callers i).call = .create job) (hencode : job.encode = .ok text) (hfree : p.server.find? key = none)
    (hseconds : 0 ≤ seconds) (hst : st.Current p.server key) (hwrote : st.wrote = true) :
    Inv callers initial key
      ⟨p.server.put key (p.server.textFor text seconds), p.programs, p.creations ++ [i], p.commits⟩
      (Function.update sessions i st) := by
  have hnone := h.kept.eq_none hfree
  obtain ⟨hcreations, hcommits⟩ := h.unborn hnone
  have hrecord := record_create hnone hcreations hcommits hcall (p.server.put key (p.server.textFor text seconds))
  exact {
    current := h.current_put hst _
    wrote := fun j => by
      rw [h.wrote_put hwrote j]
      simp [hcreations, hcommits]
    creators := by
      intro j hj
      obtain rfl : j = i := by simpa [hcreations] using hj
      exact ⟨job, hcall⟩
    committers := h.committers
    first := .inr ⟨(Option.or_eq_none_iff.1 (Option.map_eq_none_iff.1 hnone)).1, i, by simp [hcreations]⟩
    once := h.once
    unborn := fun hno => by rw [hrecord] at hno; cases hno
    kept := by
      rw [hrecord]
      exact Server.keeps_put hencode hseconds }

/-- An update is committed to the job that its client has read, and nobody has changed the job since. -/
theorem commit {u : Update} {before text : String} {read : ScanJob} {seconds : Int} {e : Entry}
    (h : Inv callers initial key p sessions) (hnames : ∀ job, p.record callers initial = some job → job.NamesDiffer)
    (hcall : (callers i).call = .update u) (hfresh : (sessions i).wrote = false)
    (hmark : (sessions i).mark = some (p.server.mark key)) (hheld : (sessions i).held = some before)
    (hdecode : ScanJob.decode before = .ok read) (hencode : (u.apply read).encode = .ok text)
    (hfind : p.server.find? key = some e) (hseconds : 0 ≤ seconds) (hst : st.Current p.server key)
    (hwrote : st.wrote = true) :
    Inv callers initial key
      ⟨p.server.put key (p.server.textFor text seconds), p.programs, p.creations, p.commits ++ [i]⟩
      (Function.update sessions i st) := by
  have hread : p.server.read key = .ok (some before) := ((h.current i) _ hmark).2 rfl before hheld
  obtain ⟨job, hjob, hstored⟩ := h.kept.eq_some hfind hread
  have hnew : (u.apply job).encode = .ok text := Update.encode_apply (hnames job hjob) hstored hdecode hencode
  have hrecord := record_commit hjob hcall (p.server.put key (p.server.textFor text seconds))
  have hnot : i ∉ p.creations ++ p.commits := fun hi => by
    rw [← h.wrote i, hfresh] at hi
    cases hi
  exact {
    current := h.current_put hst _
    wrote := fun j => by
      rw [h.wrote_put hwrote j]
      simp [or_assoc]
    creators := h.creators
    committers := by
      intro j hj
      rcases List.mem_append.1 hj with hj | hj
      · exact h.committers j hj
      · obtain rfl := List.mem_singleton.1 hj
        exact ⟨u, hcall⟩
    first := h.first
    once := by
      refine List.nodup_append.2 ⟨h.once, by simp, ?_⟩
      rintro j hj _ hi rfl
      obtain rfl := List.mem_singleton.1 hi
      exact hnot (List.mem_append_right _ hj)
    unborn := fun hno => by rw [hrecord] at hno; cases hno
    kept := by
      rw [hrecord]
      exact Server.keeps_put hnew hseconds }

end Inv

/-! ## One step -/

/-- What a request does to the pool, and what its client knows after the answer. -/
theorem Inv.serve {P : Session → Outcome Answer → Prop} {q : Request} {next : Outcome q.Reply → Program Answer}
    (h : Inv callers initial key p sessions) (hnames : ∀ job, p.record callers initial = some job → job.NamesDiffer)
    (hprogram : Obeys key (callers i).call P (sessions i) (.ask q next)) :
    ∃ st, Inv callers initial key (p.serve i q) (Function.update sessions i st) ∧
      Obeys key (callers i).call P st (next (p.server.answer q).1) := by
  cases hprogram with
  | startTimer hnext _ => exact ⟨_, h.look (h.current i) rfl, hnext⟩
  | stopTimer hnext _ => exact ⟨_, h.look (h.current i) rfl, hnext⟩
  | read hnext _ =>
    obtain ⟨held, hread⟩ := h.kept.read
    rw [serve_quiet (Server.answer_read hread) rfl rfl, Server.answer_read hread]
    exact ⟨_, h.look (h.current i) rfl, hnext held⟩
  | watch hnext _ =>
    refine ⟨⟨some (p.server.mark key), none, (sessions i).wrote⟩, h.look ?_ rfl, hnext (p.server.mark key)⟩
    rintro mark ⟨⟩
    exact ⟨le_rfl, nofun⟩
  | readWatched hnext _ =>
    obtain ⟨held, hread⟩ := h.kept.read
    rw [serve_quiet (Server.answer_readWatched hread) rfl rfl, Server.answer_readWatched hread]
    refine ⟨{ sessions i with held }, h.look ?_ rfl, hnext held⟩
    intro mark hmark
    refine ⟨((h.current i) mark hmark).1, ?_⟩
    rintro - text ⟨⟩
    exact hread
  | @setIfAbsent _ job text seconds _ hcall hfresh hencode hdone htaken hfault _ =>
    rcases p.server.setIfAbsent_cases key text seconds with ⟨f, hset⟩ | hset | ⟨hset, hfree, hseconds⟩
    · rw [serve_quiet (Server.answer_setIfAbsent hset) rfl rfl, Server.answer_setIfAbsent hset]
      exact ⟨_, h.look (h.current i) rfl, hfault f⟩
    · rw [serve_quiet (Server.answer_setIfAbsent hset) rfl rfl, Server.answer_setIfAbsent hset]
      exact ⟨_, h.look (h.current i) rfl, htaken⟩
    · rw [Pool.serve, Server.answer_setIfAbsent hset]
      exact ⟨{ sessions i with wrote := true }, h.create hcall hencode hfree hseconds (h.current i) rfl, hdone⟩
  | @commit _ u mark before text job seconds _ hcall hfresh hmark hheld hdecode hencode hdone hgone hfault _ =>
    rcases p.server.commit_cases key mark text seconds with ⟨f, hset⟩ | hset | ⟨hset, rfl, ⟨e, hfind⟩, hseconds⟩
    · rw [serve_quiet (Server.answer_commit hset) rfl rfl, Server.answer_commit hset]
      exact ⟨_, h.look Session.current_of_unwatched hfresh.symm, hfault f⟩
    · rw [serve_quiet (Server.answer_commit hset) rfl rfl, Server.answer_commit hset]
      exact ⟨_, h.look Session.current_of_unwatched hfresh.symm, hgone⟩
    · rw [Pool.serve, Server.answer_commit hset]
      exact ⟨_, h.commit hnames hcall hfresh hmark hheld hdecode hencode hfind hseconds
        Session.current_of_unwatched rfl, hdone⟩

/-- A client that goes on does nothing to the server by that. -/
theorem Inv.resume (h : Inv callers initial key p sessions) (program : Program Answer) :
    Inv callers initial key (p.resume i program) sessions :=
  ⟨h.current, h.wrote, h.creators, h.committers, h.first, h.once, h.unborn, h.kept⟩

theorem Obeying.resume {program : Program Answer} (h : p.Obeying callers key sessions)
    (hprogram : Obeys key (callers i).call (Session.Ends fun st _ => st.wrote = (callers i).writes) st program) :
    (p.resume i program).Obeying callers key (Function.update sessions i st) := by
  intro j
  by_cases hj : j = i
  · subst hj
    simp only [Pool.resume, Function.update_self]
    exact hprogram
  · simp only [Pool.resume, Function.update_of_ne hj]
    exact h j

/-- **A step keeps the invariant**, whichever client takes it. -/
theorem Inv.step {p' : Pool ι} (hstep : Step key p p') (h : Inv callers initial key p sessions)
    (hobeying : p.Obeying callers key sessions)
    (hnames : ∀ job, p.record callers initial = some job → job.NamesDiffer) :
    ∃ sessions', Inv callers initial key p' sessions' ∧ p'.Obeying callers key sessions' := by
  cases hstep with
  | @note i line next hprogram =>
    have hnext := hobeying i
    rw [hprogram] at hnext
    cases hnext with
    | note hnext => exact ⟨_, (h.look (h.current i) rfl).resume next, hobeying.resume hnext⟩
  | @ask i q next hprogram =>
    have hnext := hobeying i
    rw [hprogram] at hnext
    obtain ⟨st, hserved, hthen⟩ := h.serve hnames hnext
    exact ⟨_, hserved.resume _, Obeying.resume (p := p.serve i q) hobeying hthen⟩
  | @cut i q next hprogram t =>
    have hnext := hobeying i
    rw [hprogram] at hnext
    exact ⟨_, (h.look (h.current i) rfl).resume _, hobeying.resume (hnext.of_cut t _)⟩
  | @lost i q next hprogram t =>
    have hnext := hobeying i
    rw [hprogram] at hnext
    obtain ⟨st, hserved, -⟩ := h.serve hnames hnext
    exact ⟨_, hserved.resume _, Obeying.resume (p := p.serve i q) hobeying (hnext.of_cut t st)⟩
  | tick seconds halive => exact ⟨sessions, h.tick (Server.find?_advance_of_alive halive), hobeying⟩

/-! ## All steps -/

/-- What is true of a pool after any number of steps. -/
structure Consistent (callers : ι → Caller) (initial : Option ScanJob) (id key : String) (p : Pool ι) : Prop where
  /-- One job is created at most, and none where there was one already. -/
  first : p.creations = [] ∨ initial = none ∧ ∃ i job, p.creations = [i] ∧ (callers i).call = .create job
  committers : ∀ i ∈ p.commits, ∃ u, (callers i).call = .update u
  /-- The key holds the job that was created, with the committed updates in order. -/
  kept : p.server.Keeps key (p.record callers initial)
  unborn : p.record callers initial = none → p.commits = []
  keeps_id : ∀ job, p.record callers initial = some job → job.id = id
  /-- An update commits once at most; once if it comes back; and never if it fails, unless it was cut off. -/
  once : ∀ i, p.commits.count i ≤ 1
  updated : ∀ i u a, (callers i).call = .update u → p.programs i = .done (.value a) → p.commits.count i = 1
  not_updated : ∀ i f, p.programs i = .done (.failed f) → ¬ f.IsCut → i ∉ p.commits
  /-- A call that created the job is the one whose job it is. -/
  created : ∀ i job a, (callers i).call = .create job → p.programs i = .done (.value a) → p.creations = [i]
  not_created : ∀ i f, p.programs i = .done (.failed f) → ¬ f.IsCut → i ∉ p.creations

theorem Inv.consistent {id : String} (h : Inv callers initial key p sessions)
    (hobeying : p.Obeying callers key sessions) (hid : ∀ i job, (callers i).call = .create job → job.id = id)
    (hinitial : ∀ job ∈ initial, job.id = id) : p.Consistent callers initial id key where
  first := by
    rcases h.first with hnone | ⟨hnone, i, hi⟩
    · exact .inl hnone
    · obtain ⟨job, hjob⟩ := h.creators i (by simp [hi])
      exact .inr ⟨hnone, i, job, hi, hjob⟩
  committers := h.committers
  kept := h.kept
  unborn hnone := (h.unborn hnone).2
  keeps_id _ := record_id hinitial hid
  once i := List.nodup_iff_count_le_one.1 h.once i
  updated i _ _ hcall hdone := List.count_eq_one_of_mem h.once (h.commits_of_value hobeying hdone hcall)
  not_updated i _ hdone hcut hi := h.not_writer_of_failed hobeying hdone hcut (List.mem_append_right _ hi)
  created i _ _ hcall hdone := h.creations_of_value hobeying hdone hcall
  not_created i _ hdone hcut hi := h.not_writer_of_failed hobeying hdone hcut (List.mem_append_left _ hi)

/-- **No update is lost and none is made twice.** However the calls take turns, and wherever one of them is cut off,
the key holds the created job with the updates whose commits succeeded, in the order of the commits. -/
theorem consistent_of_steps {server : Server} {id : String} (hstores : ∀ i, (callers i).store.keyFor id = key)
    (hid : ∀ i job, (callers i).call = .create job → job.id = id) (hinitial : ∀ job ∈ initial, job.id = id)
    (hnames : ∀ i, (callers i).call.NamesDiffer) (hdiffer : ∀ job ∈ initial, job.NamesDiffer)
    (hkeeps : server.Keeps key initial) (hsteps : Relation.ReflTransGen (Step key) (start server callers id) p) :
    p.Consistent callers initial id key := by
  have hinv : ∃ sessions, Inv callers initial key p sessions ∧ p.Obeying callers key sessions := by
    induction hsteps with
    | refl =>
      refine ⟨_, inv_start hkeeps, fun i => ?_⟩
      rw [← hstores i]
      exact (callers i).obeys_program id (hid i)
    | tail _ hstep ih =>
      obtain ⟨sessions, h, hobeying⟩ := ih
      exact h.step hstep hobeying fun job => record_namesDiffer hdiffer hnames
  obtain ⟨sessions, h, hobeying⟩ := hinv
  exact h.consistent hobeying hid hinitial

/-- The clients of a sample: one creates a job, and two others move it on at the same time. -/
inductive SampleClient
  | creator
  | first
  | second
  deriving DecidableEq

def sampleCallers (i : SampleClient) : Caller where
  store := JobStore.sampleStore
  call := match i with
    | .creator => .create ⟨"job-1", .queued, none, none⟩
    | .first => .update (.moveTo .finished none)
    | .second => .update (.moveTo .failed (some "boom"))
  timeout := none

theorem namesDiffer_sampleCallers (i : SampleClient) : (sampleCallers i).call.NamesDiffer := by
  cases i with
  | creator =>
    constructor
    · rintro job ⟨⟩
      rfl
    · rintro u ⟨⟩
  | first | second =>
    constructor
    · rintro job ⟨⟩
    · rintro u ⟨⟩ report ⟨⟩

/-- Between what the first client reads and its commit the second one watches, reads and commits. -/
def crossed : Pool SampleClient := (start Server.empty sampleCallers "job-1").turns
  [.creator, .creator, .first, .first, .first, .second, .second, .second, .second, .first]

/-- The first client tries again. -/
def retried : Pool SampleClient := crossed.turns [.first, .first, .first, .first]

theorem steps_retried : Relation.ReflTransGen (Step (JobStore.sampleStore.keyFor "job-1"))
    (start Server.empty sampleCallers "job-1") retried := (steps_turns _ _ _).trans (steps_turns _ crossed _)

/-- The first client has lost its first attempt, and with the next the job has both updates, the error of the one and
the status of the other. -/
theorem consistent_of_steps_retried :
    crossed.commits = [.second] ∧
      crossed.line? .first =
        some (JobStore.debug "job-1" "Scan job changed during update_status, retrying. attempt=1") ∧
      retried.creations = [.creator] ∧ retried.commits = [.second, .first] ∧
      retried.record sampleCallers none = some ⟨"job-1", .finished, some "boom", none⟩ ∧
      retried.Consistent sampleCallers none "job-1" (JobStore.sampleStore.keyFor "job-1") := by
  have hstores : ∀ i, (sampleCallers i).store.keyFor "job-1" = JobStore.sampleStore.keyFor "job-1" := fun _ => rfl
  have hid : ∀ i job, (sampleCallers i).call = .create job → job.id = "job-1" := by
    rintro (_ | _ | _) job ⟨⟩
    rfl
  have hinitial : ∀ job ∈ (none : Option ScanJob), job.id = "job-1" := by rintro job ⟨⟩
  have hdiffer : ∀ job ∈ (none : Option ScanJob), job.NamesDiffer := by rintro job ⟨⟩
  have hfree : Server.empty.Keeps (JobStore.sampleStore.keyFor "job-1") none := rfl
  have hcrossed : crossed.commits = [.second] ∧ crossed.line? .first =
      some (JobStore.debug "job-1" "Scan job changed during update_status, retrying. attempt=1") := by decide +kernel
  have hwritten : retried.creations = [.creator] ∧ retried.commits = [.second, .first] := by decide +kernel
  have hrecord : retried.record sampleCallers none = some ⟨"job-1", .finished, some "boom", none⟩ := by
    rw [record, origin, updates, hwritten.1, hwritten.2]
    rfl
  have hconsistent := consistent_of_steps hstores hid hinitial namesDiffer_sampleCallers hdiffer hfree steps_retried
  exact ⟨hcrossed.1, hcrossed.2, hwritten.1, hwritten.2, hrecord, hconsistent⟩

end Pool

end ScanAdapter
