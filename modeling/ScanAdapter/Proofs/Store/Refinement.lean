import ScanAdapter.Proofs.Store.JobMap
import ScanAdapter.Proofs.Store.Namespaces

/-!
# The store is a map of jobs

For a client that has the server for itself, each call on the store comes to what it comes to on the map of jobs, and
leaves the server with the jobs of the map (`JobStore.Refines`). The store reads settled jobs and writes what the
update makes of them; that is the same text as if the update were made of the job itself.
-/
namespace ScanAdapter

/-! ## Jobs that come back -/

/-- The report is followed by a reader that has entered the job around it. -/
def ScanReport.Storable (report : ScanReport) : Prop := Json.Followed (Json.readDepth - 1) report.toJson

def ScanJob.Storable (job : ScanJob) : Prop := ∀ report ∈ job.report, report.Storable

def Update.Storable (u : Update) : Prop := ∀ report ∈ u.report?, report.Storable

namespace ScanJob

variable {job : ScanJob}

theorem Storable.followed (h : job.Storable) : Json.Followed Json.readDepth job.toJson := by
  have hreport : Json.Followed (Json.readDepth - 1) ((job.report.map ScanReport.toJson).getD .null) := by
    cases hreport : job.report with
    | none => exact ⟨rfl, rfl⟩
    | some report => exact h report hreport
  exact Json.followed_fields (by simp) ⟨Json.followed_string _, Json.followed_string _, Json.followed_optionalString _,
    hreport⟩

theorem Storable.fault?_eq_none (h : job.Storable) : job.report.bind ScanReport.fault? = none :=
  @ScanJob.fault?_eq_none job 196 (by decide) h.followed

theorem Storable.decode (h : job.Storable) : ScanJob.decode job.toJson.render = .ok job.settled :=
  (WireModel.decode_render .scanJob job h.followed.namesDiffer).1 h.followed.2

end ScanJob

theorem Update.Storable.fault?_eq_none {u : Update} (hu : u.Storable) : u.fault? = none :=
  Update.fault?_eq_none fun report hreport => @ScanReport.fault?_eq_none report 196 (by decide) (hu report hreport)

/-! ## The relation -/

/-- The store and its server. -/
def JobStore.react (s : JobStore) (server : Server) : Event → Option (Outcome Answer) × Server
  | .call c id timeout =>
    let (o, server) := server.run (Caller.program ⟨s, c, timeout⟩ (c.on id))
    (some o, server)
  | .advance seconds => (none, server.advance seconds)

namespace JobStore

/-- The entry of a job that is kept. -/
def stored (row : ScanJob × Int) : Entry := ⟨.text (Text.encodeUtf8 row.1.toJson.render), some row.2⟩

/-- The server has what the map has, under the keys of the store. -/
structure Refines (s : JobStore) (server : Server) (m : JobMap) : Prop where
  now : server.now = m.now
  keys : ∀ id, server.find? (s.keyFor id) = (m.find? id).map stored
  storable : m.Every ScanReport.Storable

variable {s : JobStore} {server : Server} {m : JobMap} {id : String} {job : ScanJob}

namespace Refines

theorem read_none (h : s.Refines server m) (hfind : m.find? id = none) : server.read (s.keyFor id) = .ok none :=
  Server.read_of_find?_none (by rw [h.keys, hfind]; rfl)

theorem find?_some {row : ScanJob × Int} (h : s.Refines server m) (hfind : m.find? id = some row) :
    server.find? (s.keyFor id) = some (stored row) := by
  rw [h.keys, hfind]
  rfl

theorem read_some {row : ScanJob × Int} (h : s.Refines server m) (hfind : m.find? id = some row) :
    server.read (s.keyFor id) = .ok (some row.1.toJson.render) :=
  Server.read_of_find? (h.find?_some hfind) rfl

/-- To write the text of a job is to keep the job. -/
theorem keep {ttl : Int} (h : s.Refines server m) (hlife : 0 ≤ ttl) (hjob : job.Storable) :
    s.Refines (server.put (s.keyFor id) (server.textFor job.toJson.render ttl)) (m.keep ttl id job) where
  now := h.now
  keys other := by
    rw [JobMap.find?, JobMap.rows_keep]
    by_cases hid : other = id
    · subst hid
      have hlive : JobMap.isLiveAt m.now (job, m.now + ttl) = true := decide_eq_true (by dsimp only; omega)
      have hfind : (some (job, m.now + ttl)).filter (JobMap.isLiveAt m.now) = some (job, m.now + ttl) :=
        Option.filter_eq_some_iff.2 ⟨rfl, hlive⟩
      rw [Server.find?_put_textFor hlife, Server.textFor, h.now, if_pos rfl]
      exact (congrArg (Option.map stored) hfind).symm
    · have hkey : s.keyFor other ≠ s.keyFor id := fun heq => hid (s.keyFor_injective heq)
      rw [Server.find?_put_of_ne _ _ hkey, if_neg hid]
      exact h.keys other
  storable := h.storable.keep hjob

/-- Time goes on for both alike. -/
theorem advance (h : s.Refines server m) (seconds : Nat) :
    s.Refines (server.advance seconds) { m with now := m.now + seconds } where
  now := congrArg (· + (seconds : Int)) h.now
  keys id := by
    have hrow : (⟨m.now + seconds, m.rows⟩ : JobMap).find? id =
        (m.find? id).filter (JobMap.isLiveAt (m.now + seconds)) := by
      refine (filter_filter_of_imp (fun row hrow => ?_) _).symm
      simp only [JobMap.isLiveAt, decide_eq_true_iff] at hrow ⊢
      omega
    rw [Server.find?_advance, h.keys, hrow, h.now, Option.filter_map]
    rfl
  storable := h.storable

end Refines

/-- The store and the map come to the same, and go on alike. -/
def Agree (s : JobStore) (a : Outcome Answer × Server) (b : Outcome Answer × JobMap) : Prop :=
  a.1 = b.1 ∧ s.Refines a.2 b.2

/-! ## One call -/

section

variable {timeout : Option Number}

theorem agree_create (h : s.Refines server m) (htime : s.late? timeout = none)
    (htaken : server.expiryFault? s.ttl.wholeSeconds = none) (hjob : job.Storable) :
    s.Agree (server.run (Caller.program ⟨s, .create job, timeout⟩ job.id))
      (m.serve s.ttl.wholeSeconds ScanJob.settled job.id (.create job)) := by
  have hfault := hjob.fault?_eq_none
  cases hfind : m.find? job.id with
  | some row =>
    have hset : server.setIfAbsent (s.keyFor job.id) job.toJson.render s.ttl.wholeSeconds =
        (.ok false, server) := Server.setIfAbsent_taken htaken (h.find?_some hfind)
    have hrun : server.run (Caller.program ⟨s, .create job, timeout⟩ job.id) = _ :=
      Server.run_map_failed _ (run_create htime hfault hset)
    rw [hrun, JobMap.serve, hfind]
    exact ⟨rfl, h⟩
  | none =>
    have hfree : server.find? (s.keyFor job.id) = none := by rw [h.keys, hfind]; rfl
    have hset : server.setIfAbsent (s.keyFor job.id) job.toJson.render s.ttl.wholeSeconds =
        (.ok true, server.put (s.keyFor job.id) (server.textFor job.toJson.render s.ttl.wholeSeconds)) :=
      Server.setIfAbsent_free htaken hfree
    have hrun : server.run (Caller.program ⟨s, .create job, timeout⟩ job.id) = _ :=
      Server.run_map_value _ (run_create htime hfault hset)
    rw [hrun, JobMap.serve, hfind]
    exact ⟨rfl, h.keep (Server.seconds_pos htaken).le hjob⟩

theorem agree_get (h : s.Refines server m) (htime : s.late? timeout = none) (id : String) :
    s.Agree (server.run (Caller.program ⟨s, .get, timeout⟩ id))
      (m.serve s.ttl.wholeSeconds ScanJob.settled id .get) := by
  cases hfind : m.find? id with
  | none =>
    have hrun : server.run (Caller.program ⟨s, .get, timeout⟩ id) = _ :=
      Server.run_map_value _ (run_get_absent htime (h.read_none hfind))
    rw [hrun, JobMap.serve, hfind]
    exact ⟨rfl, h⟩
  | some row =>
    have hjob : row.1.Storable := h.storable.of_find? hfind
    have hrun : server.run (Caller.program ⟨s, .get, timeout⟩ id) = _ :=
      Server.run_map_value _ (run_get_found htime (h.read_some hfind) hjob.decode)
    rw [hrun, JobMap.serve, hfind]
    exact ⟨rfl, h⟩

/-- The update is made of the settled job, and leaves the text that it would leave of the job. -/
theorem agree_update {u : Update} (h : s.Refines server m) (htime : s.late? timeout = none)
    (hattempts : 1 ≤ s.maxUpdateRetries) (htaken : server.expiryFault? s.ttl.wholeSeconds = none) (hu : u.Storable)
    (id : String) :
    s.Agree (server.run (Caller.program ⟨s, .update u, timeout⟩ id))
      (m.serve s.ttl.wholeSeconds ScanJob.settled id (.update u)) := by
  cases hfind : m.find? id with
  | none =>
    have hrun : server.run (Caller.program ⟨s, .update u, timeout⟩ id) = _ :=
      Server.run_map_failed _ (run_perform_absent htime hattempts (h.read_none hfind))
    rw [hrun, JobMap.serve, hfind]
    exact ⟨rfl, h⟩
  | some row =>
    obtain ⟨job, expiry⟩ := row
    have hjob : job.Storable := h.storable.of_find? hfind
    have hfault := u.fault?_apply hu.fault?_eq_none (ScanJob.fault?_settled hjob.fault?_eq_none)
    have hcommit : server.commit (s.keyFor id) (server.mark (s.keyFor id)) (u.apply job.settled).toJson.render
        s.ttl.wholeSeconds = _ := Server.commit_unchanged htaken (h.find?_some hfind)
    have hrun : server.run (Caller.program ⟨s, .update u, timeout⟩ id) = _ :=
      Server.run_map_value _ (run_perform_found htime hattempts (h.read_some hfind) hjob.decode hfault hcommit)
    rw [hrun, JobMap.serve, hfind, Update.render_apply_settled]
    exact ⟨rfl, h.keep (Server.seconds_pos htaken).le (Update.forall_report_apply hu hjob)⟩

/-- A call without time comes to nothing but its deadline. -/
theorem run_late {limit : Number} (htime : s.late? timeout = some limit) (c : Call)
    (hc : ∀ report ∈ c.report?, report.Storable) (id : String) :
    server.run (Caller.program ⟨s, c, timeout⟩ (c.on id)) =
      (.failed (deadline c.operation (c.on id) limit), server) := by
  cases c with
  | create job => exact Server.run_map_failed _ (run_create_late htime (ScanJob.Storable.fault?_eq_none hc))
  | get => exact Server.run_map_failed _ (run_get_late htime)
  | update u => exact Server.run_map_failed _ (run_perform_late htime)

end

/-! ## Runs of calls -/

/-- What happens to the store happens to the map. -/
theorem Refines.react {e : Event} (h : s.Refines server m) (hlife : 1 ≤ s.ttl.wholeSeconds)
    (hattempts : 1 ≤ s.maxUpdateRetries) (hclock : Server.Tells server.now s.ttl.wholeSeconds)
    (he : ∀ report ∈ e.report?, report.Storable) :
    (s.react server e).1 = (m.react s ScanJob.settled e).1 ∧
      s.Refines (s.react server e).2 (m.react s ScanJob.settled e).2 := by
  have htaken := Server.expiryFault?_eq_none hlife hclock
  cases e with
  | advance seconds => exact ⟨rfl, h.advance seconds⟩
  | call c id timeout =>
    cases htime : s.late? timeout with
    | some limit =>
      rw [JobStore.react, JobMap.react, htime, run_late htime c he]
      exact ⟨rfl, h⟩
    | none =>
      have hagree : s.Agree (server.run (Caller.program ⟨s, c, timeout⟩ (c.on id)))
          (m.serve s.ttl.wholeSeconds ScanJob.settled (c.on id) c) := by
        cases c with
        | create job => exact agree_create h htime htaken he
        | get => exact agree_get h htime id
        | update u => exact agree_update h htime hattempts htaken he id
      rw [JobStore.react, JobMap.react, htime]
      exact ⟨congrArg some hagree.1, hagree.2⟩

end JobStore

namespace Event

variable {s : JobStore} {server : Server} {m : JobMap} {es : List Event}

end Event

/-- What the visits come to where the job is found as it is. -/
def Event.found (job : ScanJob) : List (Option (Outcome Answer)) :=
  [some (.value .created), some (.value (.found (some job))), some (.value (.updated { job with status := .pending }))]

namespace JobStore

variable {s : JobStore} {server : Server} {job : ScanJob}

end JobStore

end ScanAdapter
