import ScanAdapter.Store.Program

/-!
# Protocols

A protocol says which requests a program may make with what it knows, and what it may know after an answer. It says
nothing of the world that answers: a program that keeps to a protocol does so whatever the answers are
(`Program.Follows`). What a world makes of it comes in when the program is run there: if the world keeps step with
what the program knows, it does so to the end (`Program.Follows.run`).
-/
namespace ScanAdapter

/-- No source of scores is named twice. -/
def Trivy.Vulnerability.SourcesDiffer (v : Trivy.Vulnerability) : Prop := (v.cvss.map (·.1)).Nodup

namespace Request

/-- Timers start and stop without fail. -/
def isTimer : Request → Bool
  | startTimer _ | stopTimer => true
  | _ => false

/-- The request is a command of the server. -/
def isCommand : Request → Bool
  | setIfAbsent _ _ _ | read _ | watch _ | readWatched _ | commit _ _ _ _ => true
  | _ => false

/-- What a value is known to be: a scan names no source twice. -/
def Sound : (q : Request) → q.Reply → Prop
  | scan => fun vs : List Trivy.Vulnerability => ∀ v ∈ vs, v.SourcesDiffer
  | _ => fun _ => True

/-- What may come as an answer: any sound value, and any failure but of a timer. -/
def MayBring (q : Request) : Outcome q.Reply → Prop
  | .value a => q.Sound a
  | .failed _ => q.isTimer = false
  | .silent => False

theorem isTimer_of_isCommand {q : Request} (h : q.isCommand = true) : q.isTimer = false := by
  cases q with
  | currentTime | startTimer _ | stopTimer | scan => cases h
  | _ => rfl

theorem sound_of_ne_scan {q : Request} (h : q ≠ .scan) (a : q.Reply) : q.Sound a := by
  cases q with
  | scan => exact absurd rfl h
  | _ => trivial

end Request

/-- Rules for a program, by what it knows. -/
structure Protocol (κ : Type) where
  /-- The request may be made. -/
  may : κ → Request → Prop
  /-- What may be known after an answer. -/
  learn : κ → (q : Request) → Outcome q.Reply → κ → Prop

variable {κ κ' α β σ : Type}

/-- The outcome with its value seen as another. -/
def Outcome.map (g : α → β) : Outcome α → Outcome β
  | .value a => .value (g a)
  | .failed f => .failed f
  | .silent => .silent

theorem Outcome.eq_failed_of_map {g : α → β} {o : Outcome α} {f : Failure} (h : o.map g = .failed f) :
    o = .failed f := by
  cases o with
  | value a | silent => cases h
  | failed f' =>
    cases h
    rfl

theorem Program.run_map {handle : (q : Request) → σ → Outcome q.Reply × σ} {write : LogLine → σ → σ} {w : σ}
    (g : α → β) (p : Program α) :
    (g <$> p).run handle write w = ((p.run handle write w).1.map g, (p.run handle write w).2) := by
  change (p.andThen _).run handle write w = _
  rw [Program.run_andThen]
  rcases p.run handle write w with ⟨_ | _ | _, w'⟩ <;> rfl

/-- The program keeps to the protocol whatever comes as an answer, and in the end, with what it knows then, its
outcome is as `P` asks. -/
def Program.Follows (R : Protocol κ) (P : κ → Outcome α → Prop) : Program α → κ → Prop
  | .done o, k => P k o
  | .note _ p, k => p.Follows R P k
  | .ask q next, k =>
    R.may k q ∧ ∀ o, q.MayBring o → ∃ k', R.learn k q o k' ∧ (next o).Follows R P k'

/-- The program comes to make the request if it is answered in some way. -/
inductive Program.MayAsk (q : Request) : Program α → Prop
  | now (next : Outcome q.Reply → Program α) : MayAsk q (.ask q next)
  | noted {line : LogLine} {p : Program α} (h : MayAsk q p) : MayAsk q (.note line p)
  | answered {asked : Request} {next : Outcome asked.Reply → Program α} {o : Outcome asked.Reply}
    (ho : asked.MayBring o) (h : MayAsk q (next o)) : MayAsk q (.ask asked next)

namespace Program.Follows

variable {R : Protocol κ} {P : κ → Outcome β → Prop} {Q : κ → Outcome α → Prop} {p : Program α} {k : κ}

theorem andThen {next : Outcome α → Program β} (h : p.Follows R Q k)
    (hnext : ∀ k o, Q k o → (next o).Follows R P k) : (p.andThen next).Follows R P k := by
  induction p generalizing k with
  | done o => exact hnext k o h
  | note line p ih => exact ih h
  | ask q p ih =>
    refine ⟨h.1, fun o ho => ?_⟩
    obtain ⟨k', hlearn, hthen⟩ := h.2 o ho
    exact ⟨k', hlearn, ih o hthen⟩

/-- The value of a program is used by the next one; a failure is the end. -/
theorem bind {next : α → Program β} (h : p.Follows R Q k) (hvalue : ∀ k a, Q k (.value a) → (next a).Follows R P k)
    (hfailed : ∀ k f, Q k (.failed f) → P k (.failed f)) (hsilent : ∀ k, Q k .silent → P k .silent) :
    (p >>= next).Follows R P k := by
  refine h.andThen fun k o ho => ?_
  cases o with
  | value a => exact hvalue k a ho
  | failed f => exact hfailed k f ho
  | silent => exact hsilent k ho

theorem map {g : α → β} (h : p.Follows R (fun k o => P k (o.map g)) k) : (g <$> p).Follows R P k := by
  refine h.andThen fun k o ho => ?_
  cases o <;> exact ho

theorem of_map {g : α → β} (h : (g <$> p).Follows R P k) : p.Follows R (fun k o => P k (o.map g)) k := by
  induction p generalizing k with
  | done o => cases o <;> exact h
  | note line p ih => exact ih h
  | ask q p ih =>
    refine ⟨h.1, fun o ho => ?_⟩
    obtain ⟨k', hlearn, hthen⟩ := h.2 o ho
    exact ⟨k', hlearn, ih o hthen⟩

theorem mono {Q' : κ → Outcome α → Prop} (h : p.Follows R Q k) (hQ : ∀ k o, Q k o → Q' k o) : p.Follows R Q' k := by
  induction p generalizing k with
  | done o => exact hQ k o h
  | note line p ih => exact ih h
  | ask q p ih =>
    refine ⟨h.1, fun o ho => ?_⟩
    obtain ⟨k', hlearn, hthen⟩ := h.2 o ho
    exact ⟨k', hlearn, ih o hthen⟩

/-- All that is asked is allowed by what is known then. -/
theorem exists_may {q : Request} (h : p.Follows R Q k) (hasks : p.MayAsk q) : ∃ k', R.may k' q := by
  induction hasks generalizing k with
  | now next => exact ⟨k, h.1⟩
  | noted _ ih => exact ih h
  | answered ho _ ih =>
    obtain ⟨k', -, hthen⟩ := h.2 _ ho
    exact ih hthen

/-- A program keeps to another protocol that allows no less, if what is known there keeps step with what is known
here. -/
theorem simulate {R' : Protocol κ'} {same : κ → κ' → Prop} {k' : κ'} (h : p.Follows R Q k)
    (hmay : ∀ {k k' q}, same k k' → R.may k q → R'.may k' q)
    (hlearn : ∀ {k k' q o k₁}, same k k' → R.may k q → R.learn k q o k₁ → ∃ k₁', R'.learn k' q o k₁' ∧ same k₁ k₁')
    (hsame : same k k') : p.Follows R' (fun k' o => ∃ k, same k k' ∧ Q k o) k' := by
  induction p generalizing k k' with
  | done o => exact ⟨k, hsame, h⟩
  | note line p ih => exact ih h hsame
  | ask q p ih =>
    refine ⟨hmay hsame h.1, fun o ho => ?_⟩
    obtain ⟨k₁, hk₁, hthen⟩ := h.2 o ho
    obtain ⟨k₁', hk₁', hsame₁⟩ := hlearn hsame h.1 hk₁
    exact ⟨k₁', hk₁', ih o hthen hsame₁⟩

/-- **A world that keeps step with what the program knows does so to the end.** -/
theorem run {handle : (q : Request) → σ → Outcome q.Reply × σ} {write : LogLine → σ → σ} {I : κ → σ → Prop} {w : σ}
    (h : p.Follows R Q k) (hw : I k w) (hwrite : ∀ {k w} line, I k w → I k (write line w))
    (hstep : ∀ {k w q}, I k w → R.may k q →
      q.MayBring (handle q w).1 ∧ ∀ k', R.learn k q (handle q w).1 k' → I k' (handle q w).2) :
    ∃ k', Q k' (p.run handle write w).1 ∧ I k' (p.run handle write w).2 := by
  induction p generalizing k w with
  | done o => exact ⟨k, h, hw⟩
  | note line p ih => exact ih h (hwrite line hw)
  | ask q p ih =>
    obtain ⟨hbrings, hkeeps⟩ := hstep hw h.1
    obtain ⟨k', hlearn, hthen⟩ := h.2 _ hbrings
    exact ih _ hthen (hkeeps k' hlearn)

/-- Worlds that deal alike with all that a program may ask for make the same of it. -/
theorem run_congr {handle handle' : (q : Request) → σ → Outcome q.Reply × σ} {write : LogLine → σ → σ} {w : σ}
    (h : p.Follows R Q k)
    (hsame : ∀ {k q} w, R.may k q → handle' q w = handle q w ∧ q.MayBring (handle q w).1) :
    p.run handle' write w = p.run handle write w := by
  induction p generalizing k w with
  | done o => rfl
  | note line p ih => exact ih h
  | ask q p ih =>
    obtain ⟨heq, hbrings⟩ := hsame w h.1
    obtain ⟨k', -, hthen⟩ := h.2 _ hbrings
    rw [Program.run, Program.run, heq]
    exact ih _ hthen

end Program.Follows

end ScanAdapter
