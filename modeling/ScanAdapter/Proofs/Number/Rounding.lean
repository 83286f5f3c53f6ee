import Mathlib.Tactic.Ring
import Mathlib.Tactic.Linarith
import Mathlib.Tactic.NormNum
import ScanAdapter.Number.Binary64
import ScanAdapter.Proofs.Text.Digits

/-!
# Rounding into binary64

The rounding looks at the ratio alone: a fraction may be expanded (`ofRatio_mul`) and a decimal may be given
zeros at its end (`ofDecimal_mul_ten_pow`). A number of the format is its own nearest one (`ofRatio_units`),
what is at least one does not become less than one (`le_nearest`), and what is no more than a whole number that
53 bits hold does not become more (`nearest_le`).
-/
namespace ScanAdapter

theorem roundHalfEven_mul (a d : Nat) {k : Nat} (hk : 0 < k) :
    roundHalfEven (a * k) (d * k) = roundHalfEven a d := by
  have hr : 2 * (a % d * k) = 2 * (a % d) * k := by ring
  simp only [roundHalfEven, Nat.mul_div_mul_right a d hk, Nat.mul_mod_mul_right, hr, Nat.mul_lt_mul_right hk]

theorem roundHalfEven_mul_self (s : Nat) {d : Nat} (hd : 0 < d) : roundHalfEven (s * d) d = s := by
  simp [roundHalfEven, Nat.mul_div_cancel s hd, hd]

theorem div_le_roundHalfEven (a d : Nat) : a / d ≤ roundHalfEven a d := by
  simp only [roundHalfEven]
  split
  · exact Nat.le_refl _
  · split
    · omega
    · split <;> omega

/-- Rounding does not lead beyond a whole number. -/
theorem roundHalfEven_le {a d m : Nat} (hd : 0 < d) (h : a ≤ m * d) : roundHalfEven a d ≤ m := by
  have hq : a / d ≤ m := Nat.div_le_of_le_mul (by rwa [Nat.mul_comm])
  by_cases hr : a % d = 0
  · rw [roundHalfEven, hr, if_pos (by omega)]
    exact hq
  · -- what is left over shows that the quotient is below the whole number
    have hlt : a / d < m := by
      refine Nat.lt_of_le_of_ne hq fun heq => ?_
      have hsplit := Nat.div_add_mod a d
      rw [heq, Nat.mul_comm] at hsplit
      omega
    simp only [roundHalfEven]
    split
    · exact hq
    · split
      · omega
      · split <;> omega

namespace Finite

variable {x : Finite}

theorem significand_lt (x : Finite) : x.significand < 2 ^ 53 := x.canonical.1

theorem scale_le (x : Finite) : x.scale ≤ 2045 := x.canonical.2.2

theorem units_eq (x : Finite) : x.units = x.significand * 2 ^ x.scale := rfl

theorem onePlace_eq : onePlace = 1074 := by
  unfold onePlace
  rfl

theorem fraction_eq (x : Finite) : x.fraction =
    (x.significand * 2 ^ (x.scale - min x.scale onePlace), 2 ^ (onePlace - min x.scale onePlace)) := rfl

/-- The scale can be told from the units. -/
theorem log2_units (x : Finite) : x.units.log2 - 52 = x.scale := by
  have hlt := x.significand_lt
  rcases x.canonical.2.1 with h | h
  · have h52 : 2 ^ 52 ≤ x.significand := h
    have hpos : 0 < 2 ^ x.scale := Nat.two_pow_pos _
    have hne : x.units ≠ 0 := by
      rw [units_eq]
      exact Nat.mul_ne_zero (by omega) (by omega)
    have hlog : x.units.log2 = 52 + x.scale := by
      rw [Nat.log2_eq_iff hne, units_eq]
      constructor
      · rw [pow_add]
        exact Nat.mul_le_mul_right _ h52
      · rw [show 52 + x.scale + 1 = 53 + x.scale by omega, pow_add]
        exact Nat.mul_lt_mul_of_pos_right hlt hpos
    omega
  · rw [units_eq, h, pow_zero, Nat.mul_one]
    by_cases h0 : x.significand = 0
    · simp [h0]
    · have := (Nat.log2_lt h0).2 hlt
      omega

end Finite

namespace Binary64

/-- What `make` is given by the rounding of `units / den` units. -/
def roundUnits (negative : Bool) (units den : Nat) : Binary64 :=
  let scale := (units / den).log2 - 52
  let significand := roundHalfEven units (den * Nat.pow 2 scale)
  if significand < Nat.pow 2 53 then make negative significand scale
  else make negative (Nat.pow 2 52) (scale + 1)

theorem ofRatio_eq (negative : Bool) (num den : Nat) :
    ofRatio negative num den = roundUnits negative (2 ^ Finite.onePlace * num) den := by
  unfold ofRatio
  rfl

theorem roundUnits_mul (negative : Bool) (units den : Nat) {k : Nat} (hk : 0 < k) :
    roundUnits negative (units * k) (den * k) = roundUnits negative units den := by
  have hd : ∀ p, den * k * p = den * p * k := fun p => by ring
  simp only [roundUnits, hd, Nat.mul_div_mul_right _ _ hk, roundHalfEven_mul _ _ hk]

theorem ofRatio_mul (negative : Bool) (num den : Nat) {k : Nat} (hk : 0 < k) :
    ofRatio negative (num * k) (den * k) = ofRatio negative num den := by
  rw [ofRatio_eq, ofRatio_eq, ← Nat.mul_assoc, roundUnits_mul negative _ _ hk]

theorem make_self (x : Finite) : make x.negative x.significand x.scale = .finite x := by
  rw [make, dif_pos x.canonical]

theorem roundUnits_self (x : Finite) {den : Nat} (hd : 0 < den) :
    roundUnits x.negative (x.units * den) den = .finite x := by
  have hs : roundHalfEven (x.units * den) (den * Nat.pow 2 x.scale) = x.significand := by
    have e : x.units * den = x.significand * (den * Nat.pow 2 x.scale) := by
      rw [Finite.units_eq, Nat.pow_eq]
      ring
    rw [e]
    exact roundHalfEven_mul_self _ (Nat.mul_pos hd (Nat.two_pow_pos _))
  rw [roundUnits, Nat.mul_div_cancel _ hd, Finite.log2_units, hs, if_pos x.canonical.1, make_self]

/-- A ratio that is a number of the format is that number. -/
theorem ofRatio_units (x : Finite) {num den : Nat} (hd : 0 < den) (h : 2 ^ Finite.onePlace * num = x.units * den) :
    ofRatio x.negative num den = .finite x := by
  rw [ofRatio_eq, h, roundUnits_self x hd]

/-! ## Decimals -/

theorem length_decimal_mul_ten {n : Nat} (hn : n ≠ 0) :
    (Text.decimal (n * 10)).length = (Text.decimal n).length + 1 := by
  have h := Nat.toDigits_append_toDigits (b := 10) (n := n) (d := 0) (by decide) (by omega) (by decide)
  rw [Nat.add_zero, Nat.mul_comm] at h
  simp [Text.decimal, ← h]

theorem ofDecimal_zero (negative : Bool) (e : Int) : ofDecimal negative 0 e = .finite (.zero negative) := by
  simp [ofDecimal]

theorem ofDecimal_mul_ten (negative : Bool) (n : Nat) (e : Int) :
    ofDecimal negative (n * 10) (e - 1) = ofDecimal negative n e := by
  by_cases hn : n = 0
  · rw [hn, Nat.zero_mul, ofDecimal_zero, ofDecimal_zero]
  have hm : ((Text.decimal (n * 10)).length : Int) + (e - 1) = (Text.decimal n).length + e := by
    rw [length_decimal_mul_ten hn]
    push_cast
    ring
  have hz : n * 10 ≠ 0 := by omega
  simp only [ofDecimal, hm, hn, hz, false_or, Nat.pow_eq]
  split
  · rfl
  split
  · rfl
  rcases lt_trichotomy e 0 with he | rfl | he
  · -- both below the point: the fraction is expanded by ten
    rw [if_neg (by omega), if_neg (by omega), show (-(e - 1)).toNat = (-e).toNat + 1 by omega, pow_succ]
    exact ofRatio_mul negative n (10 ^ (-e).toNat) (by decide)
  · simpa using ofRatio_mul negative n 1 (k := 10) (by decide)
  · rw [if_pos (by omega), if_pos (by omega), show e.toNat = (e - 1).toNat + 1 by omega, pow_succ]
    congr 1
    ring

/-- Zeros at the end of a decimal's digits are made up for by its exponent. -/
theorem ofDecimal_mul_ten_pow (negative : Bool) (n k : Nat) (e : Int) :
    ofDecimal negative (n * 10 ^ k) (e - k) = ofDecimal negative n e := by
  induction k generalizing e with
  | zero => simp
  | succ k ih =>
    have hk : e - ((k + 1 : Nat) : Int) = e - k - 1 := by push_cast; ring
    rw [hk, pow_succ, ← Nat.mul_assoc, ofDecimal_mul_ten, ih]

/-! ## Order -/

/-- A rounded number has no fewer units than the power of two below the exact ones. -/
theorem le_units_roundUnits {negative : Bool} {units den k : Nat} {x : Finite} (hk : 52 ≤ k)
    (h : 2 ^ k ≤ units / den) (hx : roundUnits negative units den = .finite x) : 2 ^ k ≤ x.units := by
  have hpos : 0 < units / den := Nat.lt_of_lt_of_le (Nat.two_pow_pos k) h
  have hlog : k ≤ (units / den).log2 := (Nat.le_log2 (by omega)).2 h
  have hself : 2 ^ (units / den).log2 ≤ units / den := Nat.log2_self_le (by omega)
  rw [roundUnits] at hx
  generalize hS : (units / den).log2 - 52 = scale at hx
  have hL : (units / den).log2 = 52 + scale := by omega
  have hle : 2 ^ k ≤ 2 ^ 52 * 2 ^ scale := by
    rw [← pow_add]
    exact Nat.pow_le_pow_right (by decide) (by omega)
  have hsig : 2 ^ 52 ≤ roundHalfEven units (den * Nat.pow 2 scale) := by
    refine Nat.le_trans ?_ (div_le_roundHalfEven _ _)
    rw [← Nat.div_div_eq_div_mul, Nat.pow_eq, Nat.le_div_iff_mul_le (Nat.two_pow_pos _), ← pow_add, ← hL]
    exact hself
  split at hx
  · rw [make] at hx
    split at hx
    · cases hx
      exact Nat.le_trans hle (Nat.mul_le_mul_right _ hsig)
    · cases hx
  · rw [make] at hx
    split at hx
    · cases hx
      refine Nat.le_trans hle ?_
      rw [Finite.units_eq]
      exact Nat.mul_le_mul_left _ (Nat.pow_le_pow_right (by decide) (Nat.le_succ _))
    · cases hx

/-- Rounding does not lead beyond a number that the significand can count up to. -/
theorem units_roundUnits_le {negative : Bool} {units den bound : Nat} {x : Finite} (hd : 0 < den)
    (h : units ≤ bound * den) (hcounts : 2 ^ ((units / den).log2 - 52) ∣ bound)
    (hx : roundUnits negative units den = .finite x) : x.units ≤ bound := by
  rw [roundUnits] at hx
  generalize (units / den).log2 - 52 = scale at hx hcounts
  obtain ⟨count, rfl⟩ := hcounts
  have hsig : roundHalfEven units (den * Nat.pow 2 scale) ≤ count := by
    refine roundHalfEven_le (Nat.mul_pos hd (Nat.two_pow_pos _)) (Nat.le_trans h (Nat.le_of_eq ?_))
    rw [Nat.pow_eq]
    ring
  have hle : roundHalfEven units (den * Nat.pow 2 scale) * 2 ^ scale ≤ 2 ^ scale * count := by
    rw [Nat.mul_comm]
    exact Nat.mul_le_mul_left _ hsig
  split at hx
  · rw [make] at hx
    split at hx
    · cases hx
      exact hle
    · cases hx
  · rename_i hcarry
    rw [make] at hx
    split at hx
    · cases hx
      have hcarried : 2 ^ 52 * 2 ^ (scale + 1) = 2 ^ 53 * 2 ^ scale := by ring
      exact Nat.le_trans (Nat.le_of_eq hcarried) (Nat.le_trans (Nat.mul_le_mul_right _ (Nat.not_lt.1 hcarry)) hle)
    · cases hx

/-- A number of no more units than so many ones have is no more than that. -/
theorem fraction_le_mul_of_units {x : Finite} {n : Nat} (h : x.units ≤ n * 2 ^ Finite.onePlace) :
    x.fraction.1 ≤ n * x.fraction.2 := by
  rw [Finite.units_eq] at h
  rw [Finite.fraction_eq]
  dsimp only
  have hscale : 2 ^ (x.scale - min x.scale Finite.onePlace) * 2 ^ min x.scale Finite.onePlace = 2 ^ x.scale := by
    rw [← pow_add]
    congr 1
    omega
  have hplace : 2 ^ (Finite.onePlace - min x.scale Finite.onePlace) * 2 ^ min x.scale Finite.onePlace =
      2 ^ Finite.onePlace := by
    rw [← pow_add]
    congr 1
    omega
  rw [← hscale, ← hplace, ← Nat.mul_assoc, ← Nat.mul_assoc] at h
  exact Nat.le_of_mul_le_mul_right h (Nat.two_pow_pos _)

/-- A number of at least as many units as one has is at least one. -/
theorem fraction_le_of_units {x : Finite} (h : 2 ^ Finite.onePlace ≤ x.units) :
    x.fraction.2 ≤ x.fraction.1 := by
  rw [Finite.units_eq] at h
  rw [Finite.fraction_eq]
  dsimp only
  rcases Nat.le_total x.scale Finite.onePlace with hs | hs
  · rw [Nat.min_eq_left hs, Nat.sub_self, pow_zero, Nat.mul_one]
    have e : 2 ^ (Finite.onePlace - x.scale) * 2 ^ x.scale = 2 ^ Finite.onePlace := by
      rw [← pow_add]
      congr 1
      omega
    rw [← e] at h
    exact Nat.le_of_mul_le_mul_right h (Nat.two_pow_pos _)
  · rw [Nat.min_eq_right hs, Nat.sub_self, pow_zero]
    have hne : 0 < x.significand := Nat.pos_of_ne_zero fun h0 => by
      rw [h0, Nat.zero_mul] at h
      exact absurd h (Nat.not_le.2 (Nat.two_pow_pos _))
    exact Nat.mul_pos hne (Nat.two_pow_pos _)

/-- A ratio of at least one stays at least one. -/
theorem le_nearest {num den : Nat} (hd : 0 < den) (h : den ≤ num) : (nearest num den).2 ≤ (nearest num den).1 := by
  have hq : 2 ^ Finite.onePlace ≤ 2 ^ Finite.onePlace * num / den := by
    rw [Nat.le_div_iff_mul_le hd]
    exact Nat.mul_le_mul_left _ h
  rw [nearest, ofRatio_eq]
  cases hx : roundUnits false (2 ^ Finite.onePlace * num) den with
  | finite x => exact fraction_le_of_units (le_units_roundUnits (by rw [Finite.onePlace_eq]; decide) hq hx)
  | infinite negative => exact h
  | nan => exact h

/-- A ratio of no more than a whole number of 53 bits stays no more than that. -/
theorem nearest_le {num den n : Nat} (hd : 0 < den) (hn : n < 2 ^ 53) (h : num ≤ n * den) :
    (nearest num den).1 ≤ n * (nearest num den).2 := by
  have hunits : 2 ^ Finite.onePlace * num ≤ n * 2 ^ Finite.onePlace * den := by
    rw [Nat.mul_comm n, Nat.mul_assoc]
    exact Nat.mul_le_mul_left _ h
  have hcounts : 2 ^ ((2 ^ Finite.onePlace * num / den).log2 - 52) ∣ n * 2 ^ Finite.onePlace := by
    have hquot : 2 ^ Finite.onePlace * num / den < 2 ^ (53 + Finite.onePlace) := by
      refine Nat.lt_of_le_of_lt (Nat.div_le_of_le_mul (by rwa [Nat.mul_comm den])) ?_
      rw [pow_add]
      exact Nat.mul_lt_mul_of_pos_right hn (Nat.two_pow_pos _)
    have hlog : (2 ^ Finite.onePlace * num / den).log2 < 53 + Finite.onePlace := by
      by_cases hzero : 2 ^ Finite.onePlace * num / den = 0
      · rw [hzero, Nat.log2_zero]
        omega
      · exact (Nat.log2_lt hzero).2 hquot
    exact Nat.dvd_trans (Nat.pow_dvd_pow 2 (by omega)) (Nat.dvd_mul_left _ _)
  rw [nearest, ofRatio_eq]
  cases hx : roundUnits false (2 ^ Finite.onePlace * num) den with
  | finite x => exact fraction_le_mul_of_units (units_roundUnits_le hd hunits hcounts hx)
  | infinite negative => exact h
  | nan => exact h

end Binary64

end ScanAdapter
