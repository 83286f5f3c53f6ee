import Mathlib.Tactic.Ring
import Mathlib.Tactic.Linarith
import ScanAdapter.Text.Basic

/-!
# Digits read back

What `decimal`, `padded` and `hexPadded` write is read back by `valueOf`, `twoDigits`, `millionths` and
`hexValue?`. A row of digits ends where the text goes on with something that is no digit (`EndsDigits`).
-/
namespace ScanAdapter.Text

/-- No digit comes first. -/
def EndsDigits (cs : List Char) : Prop := ∀ c ∈ cs.head?, c.isDigit = false

/-! ## The value of a row of digits -/

theorem valueOf_eq_ofDigitChars (ds : List Char) : valueOf ds = Nat.ofDigitChars 10 ds 0 := rfl

theorem valueOf_append (ds es : List Char) :
    valueOf (ds ++ es) = valueOf ds * 10 ^ es.length + valueOf es := by
  simp only [valueOf_eq_ofDigitChars, Nat.ofDigitChars_append]
  rw [Nat.ofDigitChars_eq_ofDigitChars_zero, Nat.mul_comm]

theorem valueOf_replicate_zero (n : Nat) : valueOf (List.replicate n '0') = 0 := by
  simp [valueOf_eq_ofDigitChars]

theorem digitValue_lt {c : Char} (h : c.isDigit = true) : digitValue c < 10 := by
  simp only [Char.isDigit, Bool.and_eq_true, decide_eq_true_eq, ge_iff_le, UInt32.le_iff_toNat_le] at h
  have h9 : c.toNat ≤ 57 := h.2
  simp only [digitValue, Char.reduceToNat]
  omega

theorem valueOf_lt (ds : List Char) (h : ∀ c ∈ ds, c.isDigit = true) : valueOf ds < 10 ^ ds.length := by
  induction ds with
  | nil => simp [valueOf]
  | cons d ds ih =>
    have hd : digitValue d < 10 := digitValue_lt (h d (by simp))
    have ht : valueOf ds < 10 ^ ds.length := ih fun c hc => h c (by simp [hc])
    have e : valueOf (d :: ds) = digitValue d * 10 ^ ds.length + valueOf ds := by
      rw [show d :: ds = [d] ++ ds from rfl, valueOf_append]
      simp [valueOf]
    rw [e, List.length_cons, pow_succ]
    nlinarith [Nat.mul_le_mul_right (10 ^ ds.length) (Nat.le_of_lt_succ hd)]

/-! ## Decimal digits -/

@[simp] theorem valueOf_decimal (n : Nat) : valueOf (decimal n) = n := by
  simp [valueOf_eq_ofDigitChars, decimal]

theorem isDigit_of_mem_decimal {n : Nat} {c : Char} (h : c ∈ decimal n) : c.isDigit = true :=
  Nat.isDigit_of_mem_toDigits (by decide) (by decide) h

@[simp] theorem decimal_ne_nil (n : Nat) : decimal n ≠ [] := Nat.toDigits_ne_nil

theorem length_decimal_pos (n : Nat) : 0 < (decimal n).length := Nat.length_toDigits_pos

theorem length_decimal_le_iff {n k : Nat} (hk : 0 < k) : (decimal n).length ≤ k ↔ n < 10 ^ k :=
  Nat.length_toDigits_le_iff (by decide) hk

/-- A number that is not zero has no zero in front. -/
theorem head_decimal_ne_zero {n : Nat} (hn : n ≠ 0) : (decimal n).head? ≠ some '0' := by
  induction n using Nat.strongRecOn with
  | _ n ih =>
    by_cases h : n < 10
    · have one : ∀ m < 10, m ≠ 0 → Nat.digitChar m ≠ '0' := by decide
      simpa [decimal, Nat.toDigits_of_lt_base h] using one n h hn
    · have hq := ih (n / 10) (by omega) (by omega)
      rw [decimal] at hq ⊢
      rw [Nat.toDigits_of_base_le (by decide) (by omega), List.head?_append]
      obtain ⟨d, ds, hds⟩ := List.exists_cons_of_ne_nil (Nat.toDigits_ne_nil (n := n / 10) (b := 10))
      rw [hds] at hq ⊢
      simpa using hq

/-- Digits in front of a text in which no digit comes first. -/
theorem splitDigits_append_of_ends {ds rest : List Char} (hd : ∀ c ∈ ds, c.isDigit = true)
    (hr : EndsDigits rest) : splitDigits (ds ++ rest) = (ds, rest) := by
  have hrest : rest.takeWhile Char.isDigit = [] ∧ rest.dropWhile Char.isDigit = rest := by
    cases rest with
    | nil => simp
    | cons c rest => simp [hr c rfl]
  unfold splitDigits
  rw [List.takeWhile_append_of_pos hd, List.dropWhile_append_of_pos hd, hrest.1, hrest.2, List.append_nil]

/-! ## Padded digits -/

@[simp] theorem valueOf_padded (width n : Nat) : valueOf (padded width n) = n := by
  simp [padded, valueOf_append, valueOf_replicate_zero]

theorem isDigit_of_mem_padded {width n : Nat} {c : Char} (h : c ∈ padded width n) : c.isDigit = true := by
  rcases List.mem_append.1 h with h | h
  · rw [List.eq_of_mem_replicate h]; rfl
  · exact isDigit_of_mem_decimal h

theorem length_padded {width n : Nat} (hw : 0 < width) (hn : n < 10 ^ width) :
    (padded width n).length = width := by
  have hl := (length_decimal_le_iff hw).2 hn
  simp [padded, hl]

theorem padded_ne_nil (width n : Nat) : padded width n ≠ [] := by simp [padded]

theorem twoDigits_padded {n : Nat} (hn : n < 100) (rest : List Char) :
    twoDigits (padded 2 n ++ rest) = some (n, rest) := by
  have hl := @length_padded 2 n (by decide) (by omega)
  have hv := valueOf_padded 2 n
  have hd : ∀ c ∈ padded 2 n, c.isDigit = true := fun c => isDigit_of_mem_padded
  match padded 2 n, hl, hv, hd with
  | [a, b], _, hv, hd => simp [twoDigits, hv, hd a, hd b]

/-- Four digits are two digits twice. -/
theorem twoDigits_padded_four {n : Nat} (hn : n < 10000) (rest : List Char) :
    ∃ century year cs, twoDigits (padded 4 n ++ rest) = some (century, cs) ∧
      twoDigits cs = some (year, rest) ∧ century * 100 + year = n := by
  have hl := @length_padded 4 n (by decide) (by omega)
  have hv := valueOf_padded 4 n
  have hd : ∀ c ∈ padded 4 n, c.isDigit = true := fun c => isDigit_of_mem_padded
  match padded 4 n, hl, hv, hd with
  | [a, b, c, d], _, hv, hd =>
    refine ⟨valueOf [a, b], valueOf [c, d], c :: d :: rest, ?_, ?_, ?_⟩
    · simp [twoDigits, hd a, hd b]
    · simp [twoDigits, hd c, hd d]
    · rw [show [a, b, c, d] = [a, b] ++ [c, d] from rfl, valueOf_append] at hv
      simpa using hv

theorem millionths_padded {n : Nat} (hn : n < 1000000) : millionths (padded 6 n) = n := by
  have hl := @length_padded 6 n (by decide) (by omega)
  simp [millionths, hl, List.take_of_length_le]

/-! ## Hexadecimal digits -/

theorem hexValue?_hexDigit : ∀ d < 16, hexValue? (hexDigit d) = some d := by decide

theorem exists_digit_of_mem_hexPadded {width n : Nat} {c : Char} (h : c ∈ hexPadded width n) :
    ∃ d < 16, c = hexDigit d := by
  induction width generalizing n with
  | zero => cases h
  | succ width ih =>
    rcases List.mem_append.1 h with h | h
    · exact ih h
    · exact ⟨n % 16, Nat.mod_lt n (by decide), List.mem_singleton.1 h⟩

end ScanAdapter.Text
