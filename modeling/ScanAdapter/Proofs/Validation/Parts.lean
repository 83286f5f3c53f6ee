import ScanAdapter.Validation.Basic

/-!
# Wholes and their parts

A whole that is checked part by part (`Collects`) is accepted exactly if all its parts are, and has their defects in
the order of the parts. It depends on nothing else: what makes no difference to any part makes none to the whole
(`Collects.congr`), whether outcomes are compared as they are or only by the value that they accept (`Comparison`).
-/
namespace ScanAdapter

namespace Validated

variable {α β : Type}

theorem defects_map (f : α → β) (x : Validated α) : (x.map f).defects = x.defects := by
  cases x <;> rfl

theorem map_eq_accepted_iff {f : α → β} {x : Validated α} {b : β} :
    x.map f = .accepted b ↔ ∃ a, x = .accepted a ∧ f a = b := by
  cases x <;> simp [Validated.map]

theorem ap_eq_accepted_iff {f : Validated (α → β)} {x : Validated α} {b : β} :
    f.ap x = .accepted b ↔ ∃ g a, f = .accepted g ∧ x = .accepted a ∧ g a = b := by
  cases f <;> cases x <;> simp [Validated.ap]

/-! ## Refusals -/

/-- Something is wrong with the value. -/
def IsRefused (x : Validated α) : Prop := ∃ ds, x = .refused ds

theorem isRefused_map (f : α → β) (x : Validated α) : (x.map f).IsRefused ↔ x.IsRefused := by
  cases x <;> simp [Validated.map, IsRefused]

theorem isRefused_ap (f : Validated (α → β)) (x : Validated α) :
    (f.ap x).IsRefused ↔ f.IsRefused ∨ x.IsRefused := by
  cases f <;> cases x <;> simp [Validated.ap, IsRefused]

theorem isRefused_under (part : PathPart) (x : Validated α) : (x.under part).IsRefused ↔ x.IsRefused := by
  cases x <;> simp [Validated.under, IsRefused]

theorem eq_refused_iff {x : Validated α} {ds : List Defect} : x = .refused ds ↔ x.IsRefused ∧ ds = x.defects := by
  cases x <;> simp [IsRefused, defects, eq_comm]

/-! ## Comparing outcomes -/

/-- The same value is accepted, if any is. -/
def SameValue (x y : Validated α) : Prop := ∀ a, x = .accepted a ↔ y = .accepted a

/-- Which outcomes are alike, whatever is checked. -/
abbrev Likeness := ∀ α : Type, Validated α → Validated α → Prop

/-- A likeness under which wholes are alike if their parts are. -/
structure Comparison (R : Likeness) : Prop where
  refl : ∀ {α : Type} (x : Validated α), R α x x
  under : ∀ {α : Type} (part : PathPart) {x y : Validated α}, R α x y → R α (x.under part) (y.under part)
  map : ∀ {α β : Type} (f : α → β) {x y : Validated α}, R α x y → R β (f <$> x) (f <$> y)
  ap : ∀ {α β : Type} {f g : Validated (α → β)} {x y : Validated α}, R (α → β) f g → R α x y → R β (f <*> x) (g <*> y)

theorem Comparison.eq : Comparison fun _ => Eq where
  refl _ := rfl
  under part _ _ h := congrArg (Validated.under part) h
  map f _ _ h := congrArg (f <$> ·) h
  ap hf hx := by rw [hf, hx]

theorem SameValue.refl (x : Validated α) : x.SameValue x := fun _ => Iff.rfl

theorem SameValue.equivalence (α : Type) : Equivalence (@SameValue α) where
  refl := .refl
  symm h a := (h a).symm
  trans h h' a := (h a).trans (h' a)

/-- Where a value lies does not count. -/
theorem SameValue.under {x y : Validated α} (h : x.SameValue y) (part part' : PathPart) :
    (x.under part).SameValue (y.under part') := by
  intro a
  have hkeeps (p : PathPart) (z : Validated α) : z.under p = .accepted a ↔ z = .accepted a := by
    cases z <;> simp [Validated.under]
  rw [hkeeps, hkeeps]
  exact h a

theorem Comparison.sameValue : Comparison fun α => @SameValue α where
  refl := SameValue.refl
  under part _ _ h := h.under part part
  map f _ _ h := by
    intro b
    simp only [map_eq, map_eq_accepted_iff, h _]
  ap hf hx := by
    intro b
    simp only [seq_eq, ap_eq_accepted_iff, hf _, hx _]

end Validated

/-! ## Checking part by part -/

/-- A part of what is checked. -/
structure Part (E : Type) where
  Value : Type
  outcome : E → Validated Value

namespace Part

open Validated

variable {E α : Type}

/-- A function of the values of all parts. -/
@[reducible]
def Function (α : Type) : List (Part E) → Type
  | [] => α
  | p :: ps => p.Value → Function α ps

/-- What is checked already, and then the other parts, one after another. -/
def join : (ps : List (Part E)) → (E → Validated (Function α ps)) → E → Validated α
  | [], checked => checked
  | p :: ps, checked => join ps fun e => checked e <*> p.outcome e

/-- The whole that a function makes of its parts. -/
def whole : (ps : List (Part E)) → Function α ps → E → Validated α
  | [], a => fun _ => .accepted a
  | p :: ps, f => join ps fun e => f <$> p.outcome e

/-! ### What is joined -/

variable {ps : List (Part E)} {checked : E → Validated (Function α ps)}

theorem defects_join (e : E) :
    (join ps checked e).defects = (checked e).defects ++ ps.flatMap fun p => (p.outcome e).defects := by
  induction ps with
  | nil => simp [join]
  | cons p ps ih => simp [join, ih, defects_ap]

theorem isRefused_join (e : E) :
    (join ps checked e).IsRefused ↔ (checked e).IsRefused ∨ ∃ p ∈ ps, (p.outcome e).IsRefused := by
  induction ps with
  | nil => simp [join]
  | cons p ps ih => simp [join, ih, isRefused_ap, or_assoc]

theorem join_congr {R : Likeness} (hR : Comparison R) {e e' : E}
    (hchecked : R _ (checked e) (checked e')) (hparts : ∀ p ∈ ps, R p.Value (p.outcome e) (p.outcome e')) :
    R α (join ps checked e) (join ps checked e') := by
  induction ps with
  | nil => exact hchecked
  | cons p ps ih =>
    obtain ⟨hp, hps⟩ := List.forall_mem_cons.1 hparts
    exact ih (hR.ap hchecked hp) hps

end Part

/-- What is checked by these parts, one after another. -/
def Collects {E α : Type} (checked : E → Validated α) (ps : List (Part E)) : Prop :=
  ∃ f : Part.Function α ps, checked = Part.whole ps f

namespace Collects

open Validated

variable {E α : Type} {checked : E → Validated α} {ps : List (Part E)}

/-- The defects of the whole are those of its parts in their order. -/
theorem defects (h : Collects checked ps) (e : E) :
    (checked e).defects = ps.flatMap fun p => (p.outcome e).defects := by
  obtain ⟨f, rfl⟩ := h
  cases ps with
  | nil => rfl
  | cons p ps => simp [Part.whole, Part.defects_join, defects_map]

/-- The whole is refused exactly if a part is. -/
theorem isRefused_iff (h : Collects checked ps) (e : E) :
    (checked e).IsRefused ↔ ∃ p ∈ ps, (p.outcome e).IsRefused := by
  obtain ⟨f, rfl⟩ := h
  cases ps with
  | nil => simp [Part.whole, IsRefused]
  | cons p ps => simp [Part.whole, Part.isRefused_join, isRefused_map]

/-- What makes no difference to a part makes none to the whole. -/
theorem congr {R : Likeness} (hR : Comparison R) (h : Collects checked ps) {e e' : E}
    (hparts : ∀ p ∈ ps, R p.Value (p.outcome e) (p.outcome e')) : R α (checked e) (checked e') := by
  obtain ⟨f, rfl⟩ := h
  cases ps with
  | nil => exact hR.refl _
  | cons p ps =>
    obtain ⟨hp, hps⟩ := List.forall_mem_cons.1 hparts
    exact Part.join_congr hR (hR.map f hp) hps

end Collects

end ScanAdapter
