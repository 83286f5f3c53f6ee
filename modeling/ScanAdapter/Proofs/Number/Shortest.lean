import ScanAdapter.Number.Shortest
import ScanAdapter.Proofs.Number.Rounding

/-!
# The shortest decimal reads back

Each candidate for the shortest decimal is read back before it is taken, and where none of them passes the
exact decimal stands in, which is read back too (`ofDecimal_exact`). Zeros at the end do not count
(`ofDecimal_stripZeros`). So `ofDecimal_shortest`: what is written for a finite number is that number again.
-/
namespace ScanAdapter.Decimal

/-! ## The exact decimal -/

theorem fraction_pos {x : Finite} (hx : x.significand ≠ 0) : 0 < x.fraction.1 := by
  rw [Finite.fraction_eq]
  exact Nat.mul_pos (Nat.pos_of_ne_zero hx) (Nat.two_pow_pos _)

/-- How far below the point the exact decimal of a number reaches. -/
def places (x : Finite) : Nat := Finite.onePlace - min x.scale Finite.onePlace

theorem exact_eq (x : Finite) : exact x = ⟨x.fraction.1 * 5 ^ places x, -(places x : Int)⟩ := rfl

theorem places_le (x : Finite) : places x ≤ 1074 := by
  have := Finite.onePlace_eq
  unfold places
  omega

/-- A number is below two to the power of 1024. -/
theorem fraction_lt (x : Finite) : ∃ k ≤ 1024, x.fraction.1 < 2 ^ k := by
  refine ⟨53 + (x.scale - min x.scale Finite.onePlace), ?_, ?_⟩
  · have hle := x.scale_le
    have := Finite.onePlace_eq
    omega
  · rw [Finite.fraction_eq, pow_add]
    exact Nat.mul_lt_mul_of_pos_right x.significand_lt (Nat.two_pow_pos _)

/-- The units of a number, from its fraction. -/
theorem fraction_mul (x : Finite) : 2 ^ Finite.onePlace * x.fraction.1 = x.units * 2 ^ places x := by
  rw [Finite.fraction_eq, Finite.units_eq, places]
  have e : Finite.onePlace + (x.scale - min x.scale Finite.onePlace) =
      x.scale + (Finite.onePlace - min x.scale Finite.onePlace) := by omega
  calc 2 ^ Finite.onePlace * (x.significand * 2 ^ (x.scale - min x.scale Finite.onePlace))
      = x.significand * 2 ^ (Finite.onePlace + (x.scale - min x.scale Finite.onePlace)) := by
        rw [pow_add]
        ring
    _ = x.significand * 2 ^ x.scale * 2 ^ (Finite.onePlace - min x.scale Finite.onePlace) := by
        rw [e, pow_add]
        ring

/-- Powers of two against powers of ten, by the near miss of `2 ^ 93` and `10 ^ 28`. -/
theorem two_pow_le_ten_pow {k r s : Nat} (hk : k ≤ 93 * 11 + r) (hr : 2 ^ r ≤ 10 ^ s) :
    2 ^ k ≤ 10 ^ (28 * 11 + s) := by
  have h93 : 2 ^ 93 ≤ 10 ^ 28 := by norm_num
  calc 2 ^ k ≤ 2 ^ (93 * 11 + r) := Nat.pow_le_pow_right (by decide) hk
    _ = (2 ^ 93) ^ 11 * 2 ^ r := by rw [pow_add, pow_mul]
    _ ≤ (10 ^ 28) ^ 11 * 10 ^ s := Nat.mul_le_mul (Nat.pow_le_pow_left h93 11) hr
    _ = 10 ^ (28 * 11 + s) := by rw [pow_add, pow_mul]

/-- The leading digit of the exact decimal stands within the places that the reading looks at. -/
theorem length_exact {x : Finite} (hx : x.significand ≠ 0) :
    places x ≤ (Text.decimal (x.fraction.1 * 5 ^ places x)).length + 330 ∧
      (Text.decimal (x.fraction.1 * 5 ^ places x)).length ≤ places x + 310 := by
  have hten : ∀ k, 2 ^ k * 5 ^ k = 10 ^ k := fun k => by rw [← Nat.mul_pow]
  constructor
  · by_contra hlt
    -- fewer digits would make the decimal smaller than five to the power of its places
    obtain ⟨t, ht, h2⟩ : ∃ t ≤ 330, 2 ^ places x ≤ 10 ^ t :=
      ⟨28 * 11 + 16, by decide, two_pow_le_ten_pow (r := 51) (by have := places_le x; omega) (by norm_num)⟩
    have hpos := Text.length_decimal_pos (x.fraction.1 * 5 ^ places x)
    have hd : x.fraction.1 * 5 ^ places x < 10 ^ (places x - t) :=
      (Text.length_decimal_le_iff (by omega)).1 (by omega)
    have h5 : 5 ^ places x ≤ x.fraction.1 * 5 ^ places x := Nat.le_mul_of_pos_left _ (fraction_pos hx)
    have h10 : 10 ^ (places x - t) * 10 ^ t ≤ 5 ^ places x * 10 ^ t := by
      rw [← pow_add, Nat.sub_add_cancel (by omega), ← hten, Nat.mul_comm]
      exact Nat.mul_le_mul_left _ h2
    have := Nat.le_of_mul_le_mul_right h10 (Nat.pow_pos (by decide))
    omega
  · obtain ⟨k, hk, hlt⟩ := fraction_lt x
    have h2 : 2 ^ k ≤ 10 ^ (28 * 11 + 1) := two_pow_le_ten_pow (r := 1) (by omega) (by norm_num)
    have hd : x.fraction.1 * 5 ^ places x < 10 ^ (28 * 11 + 1 + places x) := by
      rw [pow_add, ← hten (places x), ← Nat.mul_assoc]
      refine Nat.mul_lt_mul_of_pos_right ?_ (Nat.pow_pos (by decide))
      exact Nat.lt_of_lt_of_le (Nat.lt_of_lt_of_le hlt h2) (Nat.le_mul_of_pos_right _ (Nat.two_pow_pos _))
    have := (Text.length_decimal_le_iff (by omega)).2 hd
    omega

theorem ofDecimal_exact {x : Finite} (hx : x.significand ≠ 0) :
    Binary64.ofDecimal x.negative (exact x).digits (exact x).exponent = .finite x := by
  have hlen := length_exact hx
  have hne : x.fraction.1 * 5 ^ places x ≠ 0 :=
    Nat.ne_of_gt (Nat.mul_pos (fraction_pos hx) (Nat.pow_pos (by decide)))
  rw [exact_eq]
  simp only [Binary64.ofDecimal, hne, false_or, Nat.pow_eq]
  rw [if_neg (by omega), if_neg (by omega)]
  have hten : (10 : Nat) ^ places x = 2 ^ places x * 5 ^ places x := by rw [← Nat.mul_pow]
  have hunits : 2 ^ Finite.onePlace * (x.fraction.1 * 5 ^ places x) = x.units * 10 ^ places x := by
    rw [← Nat.mul_assoc, fraction_mul, hten, Nat.mul_assoc]
  split
  · rename_i hle
    have h0 : places x = 0 := by omega
    rw [h0] at hunits ⊢
    exact Binary64.ofRatio_units x (by decide) (by simpa using hunits)
  · rw [show (-(-(places x : Int))).toNat = places x by omega]
    exact Binary64.ofRatio_units x (Nat.pow_pos (by decide)) hunits

/-! ## Candidates -/

theorem ofDecimal_of_readsBack {x : Finite} {d : Decimal} (h : d.readsBack x = true) :
    Binary64.ofDecimal x.negative d.digits d.exponent = .finite x := by
  simpa [readsBack] using h

theorem readsBack_of_onGrid? {x : Finite} {e : Int} {d : Decimal} (h : onGrid? x e = some d) :
    d.readsBack x = true := by
  unfold onGrid? at h
  dsimp only at h
  split at h
  · rename_i hdown hup
    cases h
    split
    · exact hdown
    · exact hup
  · rename_i hdown _
    cases h
    exact hdown
  · rename_i _ hup
    cases h
    exact hup
  · cases h

theorem ofDecimal_stripZeros (negative : Bool) (fuel n : Nat) (e : Int) :
    Binary64.ofDecimal negative (stripZeros fuel n e).digits (stripZeros fuel n e).exponent =
      Binary64.ofDecimal negative n e := by
  induction fuel generalizing n e with
  | zero => rfl
  | succ fuel ih =>
    unfold stripZeros
    split
    · rename_i h
      have hn : n / 10 * 10 = n := by omega
      have := Binary64.ofDecimal_mul_ten negative (n / 10) (e + 1)
      rw [hn, add_sub_cancel_right] at this
      rw [ih, this]
    · rfl

/-! ## The shortest decimal -/

theorem shortest_of_isZero {x : Finite} (h : x.isZero = true) : shortest x = ⟨0, 0⟩ := by
  simp [shortest, h]

/-- **The shortest decimal of a number reads back as the number.** -/
theorem ofDecimal_shortest (x : Finite) :
    Binary64.ofDecimal x.negative (shortest x).digits (shortest x).exponent = .finite x := by
  by_cases h : x.isZero = true
  · have hs : x.significand = 0 := by simpa [Finite.isZero] using h
    have hscale : x.scale = 0 := by
      rcases x.canonical.2.1 with h52 | h0
      · rw [hs] at h52
        exact absurd h52 (by decide)
      · exact h0
    rw [shortest_of_isZero h, Binary64.ofDecimal_zero]
    obtain ⟨negative, significand, scale, canonical⟩ := x
    subst hs hscale
    rfl
  · have hs : x.significand ≠ 0 := by simpa [Finite.isZero] using h
    unfold shortest
    rw [if_neg h]
    dsimp only
    rw [ofDecimal_stripZeros]
    generalize leadingPlace x.fraction.1 x.fraction.2 = place
    cases hfound : (List.range 17).findSome? fun (k : Nat) => onGrid? x (place - k) with
    | none => exact ofDecimal_exact hs
    | some d =>
      obtain ⟨k, -, hk⟩ := List.exists_of_findSome?_eq_some hfound
      exact ofDecimal_of_readsBack (readsBack_of_onGrid? hk)

/-- Only zero is written with the digit zero alone. -/
theorem shortest_of_digits_eq_zero {x : Finite} (h : (shortest x).digits = 0) : shortest x = ⟨0, 0⟩ := by
  have hx := ofDecimal_shortest x
  rw [h, Binary64.ofDecimal_zero] at hx
  have hz : Finite.zero x.negative = x := by injection hx
  refine shortest_of_isZero ?_
  rw [← hz]
  rfl

end ScanAdapter.Decimal
