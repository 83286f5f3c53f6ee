import ScanAdapter.Text.Case
import Mathlib.Data.List.Forall2

/-!
# Texts whose capitals are of ASCII

Upper-casing takes many characters to letters, and few of them to a capital of ASCII: the letters of ASCII
themselves, the dotless i and the long s. A character that becomes several always brings an F, an S or a character
that is no capital of ASCII. So a text becomes a word of other capitals only letter by letter
(`Text.upper_eq_iff`).
-/
namespace ScanAdapter.Text

/-- A capital of ASCII that is no part of a ligature. -/
def IsPlainCapital (d : Char) : Prop := 'A' ≤ d ∧ d ≤ 'Z' ∧ d ≠ 'F' ∧ d ≠ 'S'

instance (d : Char) : Decidable (IsPlainCapital d) := inferInstanceAs (Decidable (_ ∧ _ ∧ _ ∧ _))

/-- The character is a capital in either case of ASCII, or the dotless i in place of an I. -/
def IsCaseOf (c capital : Char) : Prop := c = capital ∨ c = capital.toLower ∨ c = '\u0131' ∧ capital = 'I'

theorem IsPlainCapital.toNat {d : Char} (h : IsPlainCapital d) : 65 ≤ d.toNat ∧ d.toNat ≤ 90 := ⟨h.1, h.2.1⟩

/-! ## What the tables say -/

/-- Several capitals are never plain ones alone. -/
theorem expansion_spread : ∀ e ∈ capitalExpansions,
    0x7A < e.1 ∧ e.2.length ≠ 1 ∧ ∃ n ∈ e.2, ¬ IsPlainCapital (Char.ofNat n) := by decide +kernel

/-- Only three runs have counterparts among the capitals of ASCII. -/
theorem run_counterpart : ∀ r ∈ capitalRuns, 0x61 ≤ r.first ∧
    (90 < (r.first : Int) + r.shift ∨ (r.first = 0x61 ∧ r.last = 0x7A ∧ r.shift = -32) ∨
      (r.first = 0x131 ∧ r.last = 0x131 ∧ r.shift = -232) ∨ (r.first = 0x17F ∧ r.last = 0x17F ∧ r.shift = -300)) := by
  decide +kernel

theorem toNat_toLower_ofNat : ∀ n < 91, 65 ≤ n → (Char.ofNat n).toLower.toNat = n + 32 := by decide

theorem IsPlainCapital.toNat_toLower {d : Char} (h : IsPlainCapital d) : d.toLower.toNat = d.toNat + 32 := by
  have hlower := toNat_toLower_ofNat d.toNat (by have := h.toNat.2; omega) h.toNat.1
  rwa [Char.ofNat_toNat] at hlower

theorem mem_of_lookup {n : Nat} {ns : List Nat} (h : capitalExpansions.lookup n = some ns) :
    (n, ns) ∈ capitalExpansions := by
  obtain ⟨before, after, hsplit, -⟩ := List.lookup_eq_some_iff.1 h
  rw [hsplit]
  simp

theorem lookup_of_le {n : Nat} (h : n ≤ 0x7A) : capitalExpansions.lookup n = none := by
  cases hlookup : capitalExpansions.lookup n with
  | none => rfl
  | some ns =>
    have hfar : 0x7A < n := (expansion_spread _ (mem_of_lookup hlookup)).1
    omega

/-! ## One character -/

/-- Before the small letters every character is its own capital. -/
theorem upperChar_of_lt {c : Char} (h : c.toNat < 0x61) : upperChar c = [c] := by
  have hnone : capitalRuns.find? (·.holds c.toNat) = none := by
    refine List.find?_eq_none.2 fun r hr => ?_
    have hfirst := (run_counterpart r hr).1
    have hnot : ¬ r.first ≤ c.toNat := by omega
    simp [CaseRun.holds, hnot]
  rw [upperChar, lookup_of_le (by omega), hnone]

theorem upperChar_small {c : Char} (hleast : 0x61 ≤ c.toNat) (hmost : c.toNat ≤ 0x7A) :
    upperChar c = [Char.ofNat (c.toNat - 32)] := by
  have hfind : capitalRuns.find? (·.holds c.toNat) = some ⟨0x61, 0x7A, 1, -32⟩ :=
    List.find?_cons_of_pos (by simp [CaseRun.holds, hleast, hmost, Nat.mod_one])
  have hnumber : ((c.toNat : Int) + -32).toNat = c.toNat - 32 := by omega
  rw [upperChar, lookup_of_le hmost, hfind]
  dsimp only
  rw [CaseRun.counterpart, hnumber]

theorem exists_not_plain_of_length {c : Char} (h : (upperChar c).length ≠ 1) :
    ∃ d ∈ upperChar c, ¬ IsPlainCapital d := by
  unfold upperChar at h ⊢
  split at h
  · rename_i ns hlookup
    obtain ⟨-, -, n, hn, hplain⟩ := expansion_spread _ (mem_of_lookup hlookup)
    exact ⟨Char.ofNat n, List.mem_map_of_mem hn, hplain⟩
  · split at h <;> simp at h

/-- The number of a counterpart, unless there is no character of this number. -/
theorem toNat_counterpart (r : CaseRun) (c : Char) :
    (r.counterpart c).toNat = (c.toNat + r.shift).toNat ∨ (r.counterpart c).toNat = 0 := by
  rw [CaseRun.counterpart, Char.ofNat]
  by_cases hvalid : ((c.toNat : Int) + r.shift).toNat.isValidChar
  · rw [dif_pos hvalid]
    exact .inl rfl
  · rw [dif_neg hvalid]
    exact .inr rfl

theorem isCaseOf_of_counterpart {r : CaseRun} {c : Char} (hr : r ∈ capitalRuns) (hc : r.holds c.toNat = true)
    (hplain : IsPlainCapital (r.counterpart c)) : IsCaseOf c (r.counterpart c) := by
  obtain ⟨hleast, hmost⟩ := hplain.toNat
  have hnumber := toNat_counterpart r c
  simp only [CaseRun.holds, Bool.and_eq_true, decide_eq_true_iff] at hc
  rcases (run_counterpart r hr).2 with hfar | ⟨-, -, hshift⟩ | ⟨hfirst, hlast, hshift⟩ | ⟨hfirst, hlast, hshift⟩
  · omega
  · have hlower := hplain.toNat_toLower
    exact .inr (.inl (Char.toNat_inj.1 (by omega)))
  · have hi : c.toNat = 0x131 := by omega
    have hI : (r.counterpart c).toNat = 73 := by omega
    exact .inr (.inr ⟨Char.toNat_inj.1 hi, Char.toNat_inj.1 hI⟩)
  · have hS : (r.counterpart c).toNat = 83 := by omega
    exact absurd (Char.toNat_inj.1 hS) hplain.2.2.2

/-- A plain capital is the capital of its cases and of nothing else. -/
theorem upperChar_eq_singleton_iff {c d : Char} (hd : IsPlainCapital d) : upperChar c = [d] ↔ IsCaseOf c d := by
  obtain ⟨hleast, hmost⟩ := hd.toNat
  constructor
  · intro h
    unfold upperChar at h
    split at h
    · rename_i ns hlookup
      have hlength : ns.length = 1 := by simpa using congrArg List.length h
      exact absurd hlength (expansion_spread _ (mem_of_lookup hlookup)).2.1
    · split at h
      · rename_i r hrun
        obtain rfl : r.counterpart c = d := List.singleton_inj.1 h
        have hholds := List.find?_some hrun
        exact isCaseOf_of_counterpart (List.mem_of_find?_eq_some hrun) hholds hd
      · exact .inl (List.singleton_inj.1 h)
  · rintro (rfl | rfl | ⟨rfl, rfl⟩)
    · exact upperChar_of_lt (by omega)
    · have hlower := hd.toNat_toLower
      rw [upperChar_small (by omega) (by omega), hlower, Nat.add_sub_cancel, Char.ofNat_toNat]
    · decide +kernel

/-! ## Texts -/

/-- Plain capitals come of characters in some case, one for one. -/
theorem flatMap_upperChar_eq_iff {cs name : List Char} (hname : ∀ d ∈ name, IsPlainCapital d) :
    cs.flatMap upperChar = name ↔ List.Forall₂ IsCaseOf cs name := by
  induction cs generalizing name with
  | nil => simp [List.forall₂_nil_left_iff, eq_comm]
  | cons c cs ih =>
    rw [List.flatMap_cons]
    constructor
    · rintro rfl
      have hcs := (ih fun d hd => hname d (List.mem_append_right _ hd)).1 rfl
      by_cases hlength : (upperChar c).length = 1
      · obtain ⟨d, hd⟩ := List.length_eq_one_iff.1 hlength
        rw [hd] at hname ⊢
        exact .cons ((upperChar_eq_singleton_iff (hname d (by simp))).1 hd) hcs
      · obtain ⟨d, hd, hplain⟩ := exists_not_plain_of_length hlength
        exact absurd (hname d (List.mem_append_left _ hd)) hplain
    · rintro (_ | ⟨hcase, hcs⟩)
      rename_i d name
      obtain ⟨hd, hrest⟩ := List.forall_mem_cons.1 hname
      rw [(upperChar_eq_singleton_iff hd).2 hcase, (ih hrest).2 hcs]
      rfl

/-- **A text has a word of plain capitals for its capitals exactly if it is that word in some case.** -/
theorem upper_eq_iff {s name : String} (hname : ∀ d ∈ name.toList, IsPlainCapital d) :
    upper s = name ↔ List.Forall₂ IsCaseOf s.toList name.toList := by
  rw [← flatMap_upperChar_eq_iff hname, upper, ← String.toList_inj, String.toList_ofList]

end ScanAdapter.Text
