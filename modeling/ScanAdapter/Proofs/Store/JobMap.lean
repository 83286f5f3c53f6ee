import ScanAdapter.Proofs.Store.Calls
import ScanAdapter.Proofs.Store.Committed
import Mathlib.Logic.Function.Basic

/-!
# A map of jobs

What the store is to its clients: a map from identities to jobs, each with the last second at which it is there.
Nothing of keys, texts, marks and attempts is left in it. A number that JSON cannot write comes back as null, so the
map shows its jobs settled.
-/
namespace ScanAdapter

/-! ## The map -/

/-- The jobs that were kept, each with the last second at which it is there, and what time it is. -/
structure JobMap where
  now : Int
  rows : String → Option (ScanJob × Int)

namespace JobMap

def empty (now : Int) : JobMap := ⟨now, fun _ => none⟩

/-- The job is there still at its last second, and not after it. -/
def isLiveAt (now : Int) (row : ScanJob × Int) : Bool := now ≤ row.2

/-- A job that is there, with its end. -/
def find? (m : JobMap) (id : String) : Option (ScanJob × Int) := (m.rows id).filter (isLiveAt m.now)

/-- A job begins its time anew whenever it is kept. -/
def keep (m : JobMap) (ttl : Int) (id : String) (job : ScanJob) : JobMap :=
  { m with rows := Function.update m.rows id (some (job, m.now + ttl)) }

theorem rows_keep (m : JobMap) (ttl : Int) (id other : String) (job : ScanJob) :
    (m.keep ttl id job).rows other = if other = id then some (job, m.now + ttl) else m.rows other :=
  Function.update_apply _ _ _ _

/-- What a call on a job comes to. Jobs are shown through `view`. -/
def serve (ttl : Int) (view : ScanJob → ScanJob) (m : JobMap) (id : String) : Call → Outcome Answer × JobMap
  | .create job =>
    match m.find? id with
    | some _ => (.failed (.store (JobStore.taken id)), m)
    | none => (.value .created, m.keep ttl id job)
  | .get => (.value (.found ((m.find? id).map fun row => view row.1)), m)
  | .update u =>
    match m.find? id with
    | none => (.failed (.store (JobStore.notFound u.operation id)), m)
    | some (job, _) => (.value (.updated (u.apply (view job))), m.keep ttl id (u.apply job))

/-- All reports in the map are as `P` asks. -/
def Every (P : ScanReport → Prop) (m : JobMap) : Prop :=
  ∀ id row, m.rows id = some row → ∀ report ∈ row.1.report, P report

namespace Every

variable {P : ScanReport → Prop} {m : JobMap} {id : String} {ttl : Int}

theorem of_find? {row : ScanJob × Int} (h : m.Every P) (hfind : m.find? id = some row) :
    ∀ report ∈ row.1.report, P report := h id row (Option.filter_eq_some_iff.1 hfind).1

theorem keep {job : ScanJob} (h : m.Every P) (hjob : ∀ report ∈ job.report, P report) :
    (m.keep ttl id job).Every P := by
  intro other row hrow
  rw [rows_keep] at hrow
  split at hrow
  · cases hrow
    exact hjob
  · exact h other row hrow

end Every

end JobMap

/-! ## Runs -/

namespace Call

def operation : Call → Operation
  | create _ => .create
  | get => .get
  | update u => u.operation

/-- The identity of the job that a call is on. A new job has it in itself. -/
def on (c : Call) (id : String) : String :=
  match c with
  | create job => job.id
  | _ => id

/-- The report that a call brings. -/
def report? : Call → Option ScanReport
  | create job => job.report
  | get => none
  | update u => u.report?

end Call

/-- What happens to a store: a call with its time limit, or that time passes. -/
inductive Event
  | call (c : Call) (id : String) (timeout : Option Number)
  | advance (seconds : Nat)
  deriving Repr

namespace Event

def report? : Event → Option ScanReport
  | call c _ _ => c.report?
  | advance _ => none

def span : Event → Nat
  | call _ _ _ => 0
  | advance seconds => seconds

/-- The seconds that pass. -/
def elapsed (es : List Event) : Nat := (es.map span).sum

/-- What the calls come to, one event after the other. -/
def run {σ : Type} (react : σ → Event → Option (Outcome Answer) × σ) :
    σ → List Event → List (Option (Outcome Answer)) × σ
  | w, [] => ([], w)
  | w, e :: es =>
    let (o, w) := react w e
    let (os, w) := run react w es
    (o :: os, w)

end Event

/-- The map, with the lifetime and the time limit of the store. -/
def JobMap.react (s : JobStore) (view : ScanJob → ScanJob) (m : JobMap) : Event → Option (Outcome Answer) × JobMap
  | .call c id timeout =>
    match s.late? timeout with
    | some limit => (some (.failed (JobStore.deadline c.operation (c.on id) limit)), m)
    | none =>
      let (o, m) := m.serve s.ttl.wholeSeconds view (c.on id) c
      (some o, m)
  | .advance seconds => (none, { m with now := m.now + seconds })

/-! ## What stays in the map -/

namespace JobMap

section

variable {ttl : Int} {view : ScanJob → ScanJob} {m : JobMap} {id : String} {c : Call}

/-- Every report in the map has come with a call. -/
theorem Every.serve {P : ScanReport → Prop} (h : m.Every P) (hc : ∀ report ∈ c.report?, P report) :
    (m.serve ttl view id c).2.Every P := by
  cases c with
  | get => exact h
  | create job =>
    rw [JobMap.serve]
    split
    · exact h
    · exact h.keep hc
  | update u =>
    rw [JobMap.serve]
    split
    · exact h
    · rename_i hfind
      exact h.keep (Update.forall_report_apply hc (h.of_find? hfind))

end

variable {s : JobStore} {view : ScanJob → ScanJob} {m : JobMap} {e : Event}

theorem Every.react {P : ScanReport → Prop} (h : m.Every P) (he : ∀ report ∈ e.report?, P report) :
    (m.react s view e).2.Every P := by
  cases e with
  | advance seconds => exact h
  | call c id timeout =>
    rw [JobMap.react]
    split
    · exact h
    · exact h.serve he

end JobMap

end ScanAdapter
