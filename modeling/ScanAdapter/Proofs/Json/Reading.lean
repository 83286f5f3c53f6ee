import ScanAdapter.Proofs.Json.RoundTrip

/-!
# What is read

A text never gives a value that could not come back from its own text: no object repeats a name, nothing in
the value is foreign, and the reader that read it reads it again (`followed`). The proof goes along the three
readers by their common fuel.
-/
namespace ScanAdapter.Json

variable {fuel depth : Nat} {cs rest : List Char} {v : Json}

/-- Data that a reader of so many levels follows. -/
def Followed (depth : Nat) (v : Json) : Prop := v.isData = true ∧ v.isReadable depth = true

theorem Followed.namesDiffer (h : Followed depth v) : v.every namesDiffer = true := by
  have hdata := h.1
  rw [isData, Bool.and_eq_true] at hdata
  exact hdata.1

theorem followed_array {vs : List Json} : Followed (depth + 1) (.array vs) ↔ ∀ v ∈ vs, Followed depth v := by
  simp only [Followed, isReadable_array, isData, every, namesDiffer, notForeign, Bool.true_and, Bool.and_eq_true,
    everyItem_iff, forall_and]

theorem followed_object {ms : Members} : Followed (depth + 1) (.object ms) ↔
    (ms.map (·.1)).Nodup ∧ ∀ m ∈ ms, Followed depth m.2 := by
  simp only [Followed, isReadable_object, isData, every, namesDiffer, notForeign, Bool.true_and, Bool.and_eq_true,
    everyMember_iff, decide_eq_true_iff, forall_and, and_assoc]

/-! ## Words and numbers -/

theorem eq_of_readWord {w : Json} {word : List Char} (h : readWord w word cs = .ok (v, rest)) : v = w := by
  induction word generalizing cs with
  | nil =>
    cases h
    rfl
  | cons d word ih =>
    cases cs with
    | nil => cases h
    | cons c cs =>
      rw [readWord] at h
      split at h
      · exact ih h
      · cases h

theorem readWhole_digits {ds : List Char} (h : readWhole cs = .ok (ds, rest)) :
    ∀ c ∈ ds, c.isDigit = true := by
  have hdigits : readDigits cs = .ok (ds, rest) := by
    unfold readWhole at h
    split at h
    · cases h
    · exact h
  unfold readDigits at hdigits
  split at hdigits
  · cases hdigits
  · cases hdigits
  · rename_i hsplit
    cases hdigits
    have htake : cs.takeWhile Char.isDigit = ds := congrArg Prod.fst hsplit
    intro c hc
    rw [← htake] at hc
    exact List.all_eq_true.1 List.all_takeWhile c hc

theorem followed_readNumber {negative : Bool} (h : readNumber negative cs = .ok (v, rest)) :
    Followed depth v := by
  unfold readNumber at h
  split at h
  · cases h
  rename_i whole r hwhole
  split at h
  · cases h
  rename_i hlen
  split at h
  · cases h
  split at h
  · cases h
  cases h
  unfold numberOf
  split
  · have hshort : (Text.decimal (Text.valueOf whole)).length ≤ Number.maxDigits := by
      rw [Text.length_decimal_le_iff (by decide)]
      have hlt := Text.valueOf_lt whole (readWhole_digits hwhole)
      exact hlt.trans_le (Nat.pow_le_pow_right (by decide) (Nat.not_lt.1 hlen))
    refine ⟨rfl, ?_⟩
    cases negative <;> simpa [isReadable, every, notTooLong, levels] using hshort
  · exact ⟨rfl, rfl⟩

/-! ## Arrays and objects -/

/-- A value that is read is one without levels, an empty array or object, or the items or members of one. -/
theorem readValue_cases (h : readValue (fuel + 1) depth cs = .ok (v, rest)) :
    (∀ d, Followed d v) ∨ ∃ d, depth = d + 1 ∧ (v = .array [] ∨ v = .object [] ∨
      (∃ cs, readItems fuel d [] cs = .ok (v, rest)) ∨ ∃ cs, readMembers fuel d [] cs = .ok (v, rest)) := by
  have word {w : Json} {s cs : List Char} (hw : ∀ d, Followed d w) (h : readWord w s cs = .ok (v, rest)) :
      ∀ d, Followed d v := by
    rw [eq_of_readWord h]
    exact hw
  cases cs with
  | nil => cases h
  | cons c cs =>
    unfold readValue at h
    split at h
    · split at h
      · cases h
        exact .inl fun _ => ⟨rfl, rfl⟩
      · cases h
    split at h
    · split at h
      · cases h
      refine .inr ⟨_, rfl, ?_⟩
      split at h
      · cases h
      · cases h
        exact .inl rfl
      · exact .inr (.inr (.inl ⟨_, h⟩))
    split at h
    · split at h
      · cases h
      refine .inr ⟨_, rfl, ?_⟩
      split at h
      · cases h
      · cases h
        exact .inr (.inl rfl)
      · exact .inr (.inr (.inr ⟨_, h⟩))
    refine .inl ?_
    split at h
    · exact word (fun _ => ⟨rfl, rfl⟩) h
    split at h
    · exact word (fun _ => ⟨rfl, rfl⟩) h
    split at h
    · exact word (fun _ => ⟨rfl, rfl⟩) h
    split at h
    · exact word (fun _ => ⟨rfl, rfl⟩) h
    split at h
    · exact word (fun _ => ⟨rfl, rfl⟩) h
    split at h
    · split at h
      · exact word (fun _ => ⟨rfl, rfl⟩) h
      · exact fun _ => followed_readNumber h
    split at h
    · exact fun _ => followed_readNumber h
    · cases h

/-- Items that are read end the array, or are followed by others. -/
theorem readItems_cases {read : List Json} (h : readItems (fuel + 1) depth read cs = .ok (v, rest)) :
    ∃ w r, readValue fuel depth cs = .ok (w, r) ∧
      (v = .array (w :: read).reverse ∨ ∃ cs, readItems fuel depth (w :: read) cs = .ok (v, rest)) := by
  unfold readItems at h
  split at h
  · cases h
  rename_i w r hw
  refine ⟨w, r, hw, ?_⟩
  split at h
  · cases h
  · cases h
    exact .inl rfl
  · split at h
    · cases h
    · exact .inr ⟨_, h⟩
  · cases h

/-- Members that are read end the object, or are followed by others. -/
theorem readMembers_cases {read : Members} (h : readMembers (fuel + 1) depth read cs = .ok (v, rest)) :
    ∃ n w ds r, readValue fuel depth ds = .ok (w, r) ∧
      (v = .object (Entries.gather ((n, w) :: read).reverse) ∨
        ∃ cs, readMembers fuel depth ((n, w) :: read) cs = .ok (v, rest)) := by
  unfold readMembers at h
  split at h
  · split at h
    · cases h
    rename_i n _ _
    split at h
    · cases h
    · split at h
      · cases h
      rename_i w r hw
      refine ⟨n, w, _, r, hw, ?_⟩
      split at h
      · cases h
      · cases h
        exact .inl rfl
      · split at h
        · cases h
        · cases h
        · exact .inr ⟨_, h⟩
      · cases h
    · cases h
  · cases h

/-- What is asked of the three readers at some fuel. -/
structure ReadersFollow (fuel : Nat) : Prop where
  value : ∀ {depth cs v rest}, readValue fuel depth cs = .ok (v, rest) → Followed depth v
  items : ∀ {depth read cs v rest}, (∀ w ∈ read, Followed depth w) →
    readItems fuel depth read cs = .ok (v, rest) → Followed (depth + 1) v
  members : ∀ {depth read cs v rest}, (∀ m ∈ read, Followed depth m.2) →
    readMembers fuel depth read cs = .ok (v, rest) → Followed (depth + 1) v

theorem readersFollow : (fuel : Nat) → ReadersFollow fuel
  | 0 => by
    refine ⟨fun h => ?_, fun _ h => ?_, fun _ h => ?_⟩
    · rw [readValue] at h
      cases h
    · rw [readItems] at h
      cases h
    · rw [readMembers] at h
      cases h
  | fuel + 1 => by
    have ih := readersFollow fuel
    refine ⟨fun h => ?_, fun hread h => ?_, fun hread h => ?_⟩
    · rcases readValue_cases h with hv | ⟨d, rfl, rfl | rfl | ⟨_, h⟩ | ⟨_, h⟩⟩
      · exact hv _
      · exact followed_array.2 (by simp)
      · exact followed_object.2 (by simp)
      · exact ih.items (by simp) h
      · exact ih.members (by simp) h
    · obtain ⟨w, r, hw, rfl | ⟨_, h⟩⟩ := readItems_cases h
      · rw [followed_array]
        intro x hx
        rcases List.mem_cons.1 (List.mem_reverse.1 hx) with rfl | hx
        · exact ih.value hw
        · exact hread x hx
      · exact ih.items (List.forall_mem_cons.2 ⟨ih.value hw, hread⟩) h
    · obtain ⟨n, w, ds, r, hw, rfl | ⟨_, h⟩⟩ := readMembers_cases h
      · rw [followed_object]
        refine ⟨Entries.nodup_gather _, fun x hx => ?_⟩
        rcases List.mem_cons.1 (List.mem_reverse.1 (Entries.mem_of_mem_gather hx)) with rfl | hx
        · exact ih.value hw
        · exact hread x hx
      · exact ih.members (List.forall_mem_cons.2 ⟨ih.value hw, hread⟩) h

/-- **What a text is parsed to is data that the parser follows.** -/
theorem followed_parse (h : parse depth cs = .ok v) : Followed depth v := by
  unfold parse at h
  split at h
  · cases h
  rename_i w r hw
  split at h
  · cases h
    exact (readersFollow _).value hw
  · cases h

end ScanAdapter.Json
