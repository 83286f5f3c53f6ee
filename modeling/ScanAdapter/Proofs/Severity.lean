import ScanAdapter.Severity
import Mathlib.Order.MinMax

/-!
# The order of severities

Severities are ordered by their ranks. The highest of a row is its maximum with the unknown severity
(`Severity.highest_eq`): a row that is left at the first critical severity could not have shown a higher one.
It is attained in the row (`Severity.isHighest_highest`), and the order of the row makes no difference to it.

A row of numbers is made severities one by one, and some of them may be no ranks. What is looked at is the row up
to its first critical rank (`Severity.upToCritical`), and only that decides between a value and an error
(`Severity.highestOf_upToCritical`).
-/
namespace ScanAdapter.Severity

instance : LinearOrder Severity := LinearOrder.lift' rank fun _ _ => rank_injective

theorem lt_iff {v w : Severity} : v < w ↔ v.rank < w.rank := Iff.rfl

theorem le_iff {v w : Severity} : v ≤ w ↔ v.rank ≤ w.rank := Iff.rfl

theorem unknown_le (v : Severity) : unknown ≤ v := Nat.zero_le _

theorem le_critical (v : Severity) : v ≤ critical := by cases v <;> decide

theorem unknown_ne_critical : unknown ≠ critical := nofun

/-- Beside a critical severity the others do not count. -/
theorem foldl_max_critical (vs : List Severity) : vs.foldl max critical = critical := by
  induction vs with
  | nil => rfl
  | cons v vs ih => rw [List.foldl_cons, max_eq_left (le_critical v), ih]

/-- What is highest so far grows to the maximum of it and the row. -/
theorem highestOf_eq_max {α ε : Type} {convert : α → Except ε Severity} {severity : α → Severity} {as : List α}
    (h : ∀ a ∈ as, convert a = .ok (severity a)) (sofar : Severity) :
    ∃ rest, highestOf convert sofar as = .ok ((as.map severity).foldl max sofar, rest) := by
  induction as generalizing sofar with
  | nil => exact ⟨[], rfl⟩
  | cons a as ih =>
    have hrest := ih fun b hb => h b (List.mem_cons_of_mem a hb)
    rw [highestOf, h a List.mem_cons_self, List.map_cons, List.foldl_cons]
    dsimp only
    split
    · rename_i hlt
      rw [max_eq_right (lt_iff.2 hlt).le]
      split
      · rename_i hcritical
        rw [hcritical, foldl_max_critical]
        exact ⟨as, rfl⟩
      · exact hrest _
    · rename_i hle
      rw [max_eq_left (le_iff.2 (Nat.not_lt.1 hle))]
      exact hrest _

/-- **The highest of a row is its maximum with the unknown severity.** -/
theorem highest_eq (vs : List Severity) : highest vs = vs.foldl max unknown := by
  obtain ⟨rest, hrest⟩ := @highestOf_eq_max _ Empty _ id vs (fun v _ => rfl) unknown
  rw [highest]
  change highestOf (fun v => .ok v) unknown vs = _ at hrest
  rw [hrest, List.map_id]

theorem le_foldl_max {vs : List Severity} {sofar : Severity} : sofar ≤ vs.foldl max sofar := by
  induction vs generalizing sofar with
  | nil => exact le_rfl
  | cons v vs ih => exact (le_max_left _ _).trans ih

/-- The severity is the maximum of a row, and unknown for a row of none. -/
structure IsHighest (v : Severity) (vs : List Severity) : Prop where
  bound : ∀ w ∈ vs, w ≤ v
  attained : v ∈ vs ∨ vs = [] ∧ v = unknown

theorem le_highest {v : Severity} {vs : List Severity} (h : v ∈ vs) : v ≤ highest vs := by
  rw [highest_eq]
  generalize unknown = sofar
  induction vs generalizing sofar with
  | nil => cases h
  | cons w vs ih =>
    rcases List.mem_cons.1 h with rfl | h
    · exact (le_max_right _ _).trans le_foldl_max
    · exact ih h _

theorem highest_mem (vs : List Severity) : highest vs ∈ vs ∨ highest vs = unknown := by
  rw [highest_eq]
  generalize unknown = sofar
  induction vs generalizing sofar with
  | nil => exact .inr rfl
  | cons v vs ih =>
    rw [List.foldl_cons]
    rcases ih (max sofar v) with h | h
    · exact .inl (List.mem_cons_of_mem v h)
    · rw [h]
      rcases max_choice sofar v with hmax | hmax
      · exact .inr hmax
      · rw [hmax]
        exact .inl List.mem_cons_self

theorem isHighest_highest (vs : List Severity) : IsHighest (highest vs) vs where
  bound _ h := le_highest h
  attained := by
    rcases highest_mem vs with h | hunknown
    · exact .inl h
    · cases vs with
      | nil => exact .inr ⟨rfl, rfl⟩
      | cons v vs =>
        have hle : v ≤ highest (v :: vs) := le_highest List.mem_cons_self
        have hv : v = highest (v :: vs) := le_antisymm hle (hunknown ▸ unknown_le v)
        exact .inl (hv ▸ List.mem_cons_self)

/-- The order of a row makes no difference. -/
theorem highest_perm {vs ws : List Severity} (h : vs.Perm ws) : highest vs = highest ws := by
  rw [highest_eq, highest_eq]
  exact h.foldl_eq' (fun v _ w _ sofar => max_right_comm sofar v w) unknown

/-! ## Rows of ranks -/

/-- The number is the rank of a severity. -/
def IsRank (n : Int) : Prop := 0 ≤ n ∧ n ≤ 4

instance (n : Int) : Decidable (IsRank n) := inferInstanceAs (Decidable (_ ∧ _))

theorem ofRank_of_isRank {n : Int} (h : IsRank n) : ∃ v : Severity, ofRank n = .ok v ∧ (v.rank : Int) = n := by
  obtain ⟨hleast, hmost⟩ := h
  obtain rfl | rfl | rfl | rfl | rfl : n = 0 ∨ n = 1 ∨ n = 2 ∨ n = 3 ∨ n = 4 := by omega
  · exact ⟨unknown, rfl, rfl⟩
  · exact ⟨low, rfl, rfl⟩
  · exact ⟨medium, rfl, rfl⟩
  · exact ⟨high, rfl, rfl⟩
  · exact ⟨critical, rfl, rfl⟩

theorem ofRank_of_not_isRank {n : Int} (h : ¬ IsRank n) : ofRank n = .error n := by
  have hnone : ofRank? n = none := by
    refine List.find?_eq_none.2 fun v _ => ?_
    cases v <;> simp [rank] <;> rintro rfl <;> exact h (by decide)
  rw [ofRank, hnone]

theorem rank_max (v w : Severity) : ((max v w).rank : Int) = max (v.rank : Int) w.rank := by
  cases v <;> cases w <;> rfl

/-- The row up to its first critical rank, that one included. -/
def upToCritical (ns : List Int) : List Int := ns.takeWhile (· ≠ 4) ++ (ns.dropWhile (· ≠ 4)).take 1

@[simp] theorem upToCritical_nil : upToCritical [] = [] := rfl

@[simp] theorem upToCritical_four (ns : List Int) : upToCritical (4 :: ns) = [4] := by simp [upToCritical]

theorem upToCritical_cons {n : Int} (h : n ≠ 4) (ns : List Int) : upToCritical (n :: ns) = n :: upToCritical ns := by
  simp [upToCritical, h]

/-- What comes after the first critical rank is not part of it. -/
theorem upToCritical_append {ns : List Int} (h : 4 ∈ ns) (others : List Int) :
    upToCritical (upToCritical ns ++ others) = upToCritical ns := by
  induction ns with
  | nil => simp at h
  | cons n ns ih =>
    by_cases hn : n = 4
    · subst hn
      simp
    · have hmem : 4 ∈ ns := by simpa [Ne.symm hn] using h
      rw [upToCritical_cons hn, List.cons_append, upToCritical_cons hn, ih hmem]

/-! ### One turn of the loop -/

section

variable {α ε : Type} {convert : α → Except ε Severity} {sofar v : Severity} {a : α} {as : List α}

theorem highestOf_error {e : ε} (h : convert a = .error e) : highestOf convert sofar (a :: as) = .error e := by
  rw [highestOf, h]

theorem highestOf_next (h : convert a = .ok v) (hv : v ≠ critical) :
    highestOf convert sofar (a :: as) = highestOf convert (max sofar v) as := by
  rw [highestOf, h]
  dsimp only
  rw [if_neg hv]
  split
  · rename_i hlt
    rw [max_eq_right (lt_iff.2 hlt).le]
  · rename_i hle
    rw [max_eq_left (le_iff.2 (Nat.not_lt.1 hle))]

/-- The first critical severity ends the loop; none came before it. -/
theorem highestOf_critical (h : convert a = .ok critical) (hsofar : sofar ≠ critical) :
    highestOf convert sofar (a :: as) = .ok (critical, as) := by
  have hlt : sofar.rank < critical.rank := lt_iff.1 (lt_of_le_of_ne (le_critical sofar) hsofar)
  rw [highestOf, h]
  dsimp only
  rw [if_pos hlt, if_pos rfl]

end

/-- A rank below the critical one is taken into what is highest so far, which stays below it. -/
theorem highestOf_rank {n : Int} {sofar : Severity} (hrank : IsRank n) (hn : n ≠ 4) (hsofar : sofar ≠ critical) :
    ∃ v : Severity, (v.rank : Int) = n ∧ max sofar v ≠ critical ∧
      ∀ ns, highestOf ofRank sofar (n :: ns) = highestOf ofRank (max sofar v) ns := by
  obtain ⟨v, hv, rfl⟩ := ofRank_of_isRank hrank
  have hne : v ≠ critical := by
    rintro rfl
    exact hn rfl
  refine ⟨v, rfl, ?_, fun ns => highestOf_next hv hne⟩
  rcases max_choice sofar v with hmax | hmax <;> rwa [hmax]

/-! ### The whole row -/

/-- The first number that is no rank is the error, unless a critical rank comes before it. -/
theorem highestOf_ofRank_error {ns : List Int} {sofar : Severity} {n : Int} (hsofar : sofar ≠ critical)
    (h : (upToCritical ns).find? (fun m => ¬ IsRank m) = some n) : highestOf ofRank sofar ns = .error n := by
  induction ns generalizing sofar with
  | nil => simp at h
  | cons m ns ih =>
    by_cases hm : m = 4
    · subst hm
      simp [IsRank] at h
    · rw [upToCritical_cons hm] at h
      by_cases hrank : IsRank m
      · obtain ⟨v, -, hmax, hnext⟩ := highestOf_rank hrank hm hsofar
        rw [hnext]
        exact ih hmax (by simpa [hrank] using h)
      · obtain rfl : m = n := by simpa [hrank] using h
        exact highestOf_error (ofRank_of_not_isRank hrank)

/-- The highest so far grows to the maximum of it and what is looked at. -/
theorem highestOf_ofRank {ns : List Int} {sofar : Severity} (hsofar : sofar ≠ critical)
    (h : ∀ n ∈ upToCritical ns, IsRank n) :
    ∃ v rest, ns = upToCritical ns ++ rest ∧ highestOf ofRank sofar ns = .ok (v, rest) ∧
      (v.rank : Int) = (upToCritical ns).foldl max (sofar.rank : Int) := by
  induction ns generalizing sofar with
  | nil => exact ⟨sofar, [], rfl, rfl, rfl⟩
  | cons n ns ih =>
    by_cases hn : n = 4
    · subst hn
      refine ⟨critical, ns, by simp, highestOf_critical rfl hsofar, ?_⟩
      have hle : (sofar.rank : Int) ≤ 4 := Int.ofNat_le.2 (le_critical sofar)
      rw [upToCritical_four, List.foldl_cons, List.foldl_nil, max_eq_right hle]
      rfl
    · rw [upToCritical_cons hn] at h ⊢
      obtain ⟨v, rfl, hmax, hnext⟩ := highestOf_rank (h n List.mem_cons_self) hn hsofar
      obtain ⟨w, rest, hrest, hrun, hw⟩ := ih hmax fun m hm => h m (List.mem_cons_of_mem _ hm)
      refine ⟨w, rest, congrArg _ hrest, (hnext ns).trans hrun, ?_⟩
      rw [hw, List.foldl_cons, rank_max]

theorem foldl_max_le_iff {ns : List Int} {a b : Int} : ns.foldl max a ≤ b ↔ a ≤ b ∧ ∀ n ∈ ns, n ≤ b := by
  induction ns generalizing a with
  | nil => simp
  | cons n ns ih =>
    simp only [List.foldl_cons, ih, max_le_iff, List.forall_mem_cons, and_assoc]

/-- No rank is above the critical one, so what is looked at has the maximum of the whole row. -/
theorem foldl_max_upToCritical {ns : List Int} (h : ∀ n ∈ ns, IsRank n) {a : Int} (ha : a ≤ 4) :
    (upToCritical ns).foldl max a = ns.foldl max a := by
  induction ns generalizing a with
  | nil => rfl
  | cons n ns ih =>
    obtain ⟨hn, hrest⟩ := List.forall_mem_cons.1 h
    by_cases hfour : n = 4
    · subst hfour
      have hle : ns.foldl max (max a 4) ≤ 4 := foldl_max_le_iff.2 ⟨by omega, fun m hm => (hrest m hm).2⟩
      have hge : max a 4 ≤ ns.foldl max (max a 4) := (foldl_max_le_iff.1 le_rfl).1
      rw [upToCritical_four, List.foldl_cons, List.foldl_cons, List.foldl_nil]
      omega
    · rw [upToCritical_cons hfour, List.foldl_cons, List.foldl_cons]
      exact ih hrest (by have := hn.2; omega)

theorem mem_of_mem_upToCritical {ns : List Int} {n : Int} (h : n ∈ upToCritical ns) : n ∈ ns := by
  rw [upToCritical, List.mem_append] at h
  rcases h with h | h
  · exact (List.takeWhile_sublist _).subset h
  · exact (List.dropWhile_sublist _).subset (List.mem_of_mem_take h)

/-- The highest of a row of ranks is its maximum with the rank of the unknown severity. -/
theorem highestOf_ranks (ns : List Int) (h : ∀ n ∈ ns, IsRank n) :
    ∃ v : Severity, (highestOf ofRank unknown ns).map (·.1) = .ok v ∧ (v.rank : Int) = ns.foldl max 0 := by
  have hlooked : ∀ n ∈ upToCritical ns, IsRank n := fun n hn => h n (mem_of_mem_upToCritical hn)
  obtain ⟨v, rest, -, hrun, hv⟩ := highestOf_ofRank unknown_ne_critical hlooked
  refine ⟨v, by rw [hrun]; rfl, ?_⟩
  rw [hv, foldl_max_upToCritical h (by decide)]
  rfl

/-- Rows of the same ranks, however often and in whatever order, have the same highest. -/
theorem highestOf_ranks_congr {ns ms : List Int} (h : ∀ n ∈ ns, IsRank n) (hsame : ∀ n, n ∈ ms ↔ n ∈ ns) :
    (highestOf ofRank unknown ms).map (·.1) = (highestOf ofRank unknown ns).map (·.1) := by
  obtain ⟨v, hv, hmax⟩ := highestOf_ranks ns h
  obtain ⟨w, hw, hmax'⟩ := highestOf_ranks ms fun n hn => h n ((hsame n).1 hn)
  have heq : ms.foldl max 0 = ns.foldl max 0 := by
    refine eq_of_forall_ge_iff fun b => ?_
    simp only [foldl_max_le_iff, hsame]
  obtain rfl : w = v := rank_injective (by omega)
  rw [hv, hw]

theorem highestOf_ranks_append {ns ms : List Int} (hns : ∀ n ∈ ns, IsRank n) (hms : ∀ n ∈ ms, IsRank n) :
    ∃ v w : Severity,
      (highestOf ofRank unknown ns).map (·.1) = .ok v ∧ (highestOf ofRank unknown ms).map (·.1) = .ok w ∧
      (highestOf ofRank unknown (ns ++ ms)).map (·.1) = .ok (max v w) := by
  obtain ⟨v, hv, hmaxv⟩ := highestOf_ranks ns hns
  obtain ⟨w, hw, hmaxw⟩ := highestOf_ranks ms hms
  obtain ⟨u, hu, hmaxu⟩ := highestOf_ranks (ns ++ ms) fun n hn => (List.mem_append.1 hn).elim (hns n) (hms n)
  refine ⟨v, w, hv, hw, ?_⟩
  have heq : (ns ++ ms).foldl max 0 = max (ns.foldl max 0) (ms.foldl max 0) := by
    refine eq_of_forall_ge_iff fun b => ?_
    simp only [foldl_max_le_iff, max_le_iff, List.mem_append]
    grind
  obtain rfl : u = max v w := rank_injective (by have := rank_max v w; omega)
  exact hu

/-- Once a critical rank is found, what comes after it is left, whatever it is. -/
theorem highestOf_upToCritical_append {ns : List Int} (hfour : 4 ∈ ns) (others : List Int) :
    highestOf ofRank unknown (upToCritical ns ++ others) =
      (highestOf ofRank unknown ns).map fun found => (found.1, others) := by
  have hsame := upToCritical_append hfour others
  cases hfind : (upToCritical ns).find? fun m => ¬ IsRank m with
  | some n =>
    have hfind' := hsame.symm ▸ hfind
    rw [highestOf_ofRank_error unknown_ne_critical hfind, highestOf_ofRank_error unknown_ne_critical hfind']
    rfl
  | none =>
    have hall : ∀ n ∈ upToCritical ns, IsRank n := by simpa [List.find?_eq_none] using hfind
    obtain ⟨v, rest, -, hrun, hv⟩ := highestOf_ofRank unknown_ne_critical hall
    obtain ⟨w, rest', hsplit, hrun', hw⟩ := highestOf_ofRank unknown_ne_critical (hsame.symm ▸ hall)
    rw [hsame] at hsplit hw
    obtain rfl : w = v := rank_injective (by omega)
    obtain rfl : others = rest' := List.append_cancel_left hsplit
    rw [hrun, hrun']
    rfl

/-- **The highest of a row of numbers is decided by the row up to its first critical rank: its first number that is no
rank is the error, and without one its maximum with the rank of the unknown severity is the value, which is that of
the whole row if all of it are ranks. What comes after is left, whatever it is. The highest of ranks does not depend
on their order or on how often they come, and that of two rows is the larger of theirs.** -/
theorem highestOf_upToCritical (ns : List Int) :
    (∀ n, (upToCritical ns).find? (fun m => ¬ IsRank m) = some n → highestOf ofRank unknown ns = .error n) ∧
    ((∀ n ∈ upToCritical ns, IsRank n) → ∃ v rest, ns = upToCritical ns ++ rest ∧
      highestOf ofRank unknown ns = .ok (v, rest) ∧ (v.rank : Int) = (upToCritical ns).foldl max 0 ∧
      ((∀ n ∈ ns, IsRank n) → (v.rank : Int) = ns.foldl max 0)) ∧
    (4 ∈ ns → ∀ others, highestOf ofRank unknown (upToCritical ns ++ others) =
      (highestOf ofRank unknown ns).map fun found => (found.1, others)) ∧
    ((∀ n ∈ ns, IsRank n) →
      (∀ ms : List Int, (∀ n, n ∈ ms ↔ n ∈ ns) →
        (highestOf ofRank unknown ms).map (·.1) = (highestOf ofRank unknown ns).map (·.1)) ∧
      ∀ ms : List Int, (∀ n ∈ ms, IsRank n) → ∃ v w : Severity,
        (highestOf ofRank unknown ns).map (·.1) = .ok v ∧ (highestOf ofRank unknown ms).map (·.1) = .ok w ∧
        (highestOf ofRank unknown (ns ++ ms)).map (·.1) = .ok (max v w)) := by
  refine ⟨?_, ?_, ?_, ?_⟩
  · intro n hn
    exact highestOf_ofRank_error unknown_ne_critical hn
  · intro h
    obtain ⟨v, rest, hns, hrun, hv⟩ := highestOf_ofRank unknown_ne_critical h
    refine ⟨v, rest, hns, hrun, hv, fun hall => ?_⟩
    exact hv.trans (foldl_max_upToCritical hall (by decide))
  · intro hfour others
    exact highestOf_upToCritical_append hfour others
  · intro h
    exact ⟨fun ms => highestOf_ranks_congr h, fun ms => highestOf_ranks_append h⟩

/-- A number that is no rank does not matter after a critical rank, and is the error before it; and two rows of the
same ranks have the same highest. -/
theorem highestOf_upToCritical_nine :
    highestOf ofRank unknown [1, 4, 9] = .ok (critical, [9]) ∧ highestOf ofRank unknown [1, 9, 4] = .error 9 ∧
      (highestOf ofRank unknown [1, 3, 1]).map (·.1) = (highestOf ofRank unknown [3, 1]).map (·.1) := by
  obtain ⟨-, hvalue, -, -⟩ := highestOf_upToCritical [1, 4, 9]
  obtain ⟨herror, -, -, -⟩ := highestOf_upToCritical [1, 9, 4]
  obtain ⟨-, -, -, hranks⟩ := highestOf_upToCritical [3, 1]
  refine ⟨?_, herror 9 (by decide), (hranks (by decide)).1 [1, 3, 1] (by simp [or_comm])⟩
  obtain ⟨v, rest, hsplit, hrun, hv, -⟩ := hvalue (by decide)
  obtain rfl : v = critical := rank_injective (Int.ofNat_inj.1 hv)
  have hrest : [1, 4] ++ [9] = [1, 4] ++ rest := hsplit
  obtain rfl : [9] = rest := List.append_cancel_left hrest
  exact hrun

end ScanAdapter.Severity
