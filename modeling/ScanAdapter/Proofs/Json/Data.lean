import ScanAdapter.Json.Reader
import ScanAdapter.Json.Writer

/-!
# What a text gives back

A written value comes back from its text with null for what JSON has no number for (`settled`). For that the
names in each of its objects must differ, and the reader must follow it: its integers are no longer than an
integer may be, and it has no more levels than the reader takes (`isReadable`). What no reading ever gives,
and no writing takes, is a foreign value.
-/
namespace ScanAdapter.Json

/-! ## The values in a value -/

mutual

/-- Whether `p` holds of a value and of each value in it. -/
def every (p : Json → Bool) : Json → Bool
  | .array vs => p (.array vs) && everyItem p vs
  | .object ms => p (.object ms) && everyMember p ms
  | v => p v

def everyItem (p : Json → Bool) : List Json → Bool
  | [] => true
  | v :: vs => every p v && everyItem p vs

def everyMember (p : Json → Bool) : List (String × Json) → Bool
  | [] => true
  | (_, v) :: ms => every p v && everyMember p ms

end

mutual

/-- The levels of arrays and objects. -/
def levels : Json → Nat
  | .array vs => levelsOfItems vs + 1
  | .object ms => levelsOfMembers ms + 1
  | _ => 0

def levelsOfItems : List Json → Nat
  | [] => 0
  | v :: vs => max (levels v) (levelsOfItems vs)

def levelsOfMembers : List (String × Json) → Nat
  | [] => 0
  | (_, v) :: ms => max (levels v) (levelsOfMembers ms)

end

variable {p : Json → Bool}

theorem everyItem_iff {vs : List Json} : everyItem p vs = true ↔ ∀ v ∈ vs, v.every p = true := by
  induction vs with
  | nil => simp [everyItem]
  | cons v vs ih => simp [everyItem, ih]

theorem everyMember_iff {ms : Members} : everyMember p ms = true ↔ ∀ m ∈ ms, m.2.every p = true := by
  induction ms with
  | nil => simp [everyMember]
  | cons m ms ih =>
    obtain ⟨n, v⟩ := m
    simp [everyMember, ih]

theorem levelsOfItems_le_iff {vs : List Json} {n : Nat} : levelsOfItems vs ≤ n ↔ ∀ v ∈ vs, v.levels ≤ n := by
  induction vs with
  | nil => simp [levelsOfItems]
  | cons v vs ih => rw [levelsOfItems, Nat.max_le, ih, List.forall_mem_cons]

theorem levelsOfMembers_le_iff {ms : Members} {n : Nat} :
    levelsOfMembers ms ≤ n ↔ ∀ m ∈ ms, m.2.levels ≤ n := by
  induction ms with
  | nil => simp [levelsOfMembers]
  | cons m ms ih =>
    obtain ⟨s, v⟩ := m
    rw [levelsOfMembers, Nat.max_le, ih, List.forall_mem_cons]

theorem every_of_mem_items {v : Json} {vs : List Json} (h : (array vs).every p = true) (hv : v ∈ vs) :
    v.every p = true := by
  rw [every, Bool.and_eq_true, everyItem_iff] at h
  exact h.2 v hv

theorem every_of_mem_members {m : String × Json} {ms : Members} (h : (object ms).every p = true) (hm : m ∈ ms) :
    m.2.every p = true := by
  rw [every, Bool.and_eq_true, everyMember_iff] at h
  exact h.2 m hm

/-! ## What is asked of a value -/

/-- An object repeats no name. -/
def namesDiffer : Json → Bool
  | .object ms => decide (ms.map (·.1)).Nodup
  | _ => true

/-- An integer has no more digits than an integer may have. -/
def notTooLong : Json → Bool
  | .number (.int n) => decide ((Text.decimal n.natAbs).length ≤ Number.maxDigits)
  | _ => true

def notForeign : Json → Bool
  | .foreign _ => false
  | _ => true

/-- JSON has a text for the value itself: a finite number, or anything that is neither a number nor foreign. -/
def hasText : Json → Bool
  | .number (.float x) => x.isFinite
  | .foreign _ => false
  | _ => true

/-- What a reader of so many levels follows. -/
def isReadable (depth : Nat) (v : Json) : Bool := v.every notTooLong && decide (v.levels ≤ depth)

/-- What can come from a text: no name is repeated, and nothing is foreign. -/
def isData (v : Json) : Bool := v.every namesDiffer && v.every notForeign

/-! ## Settled values -/

mutual

/-- The value with null in place of what JSON has no text for. -/
def settled : Json → Json
  | .number (.float (.infinite _)) => .null
  | .number (.float .nan) => .null
  | .array vs => .array (settledItems vs)
  | .object ms => .object (settledMembers ms)
  | .foreign _ => .null
  | v => v

def settledItems : List Json → List Json
  | [] => []
  | v :: vs => settled v :: settledItems vs

def settledMembers : List (String × Json) → List (String × Json)
  | [] => []
  | (n, v) :: ms => (n, settled v) :: settledMembers ms

end

theorem settledItems_eq (vs : List Json) : settledItems vs = vs.map settled := by
  induction vs with
  | nil => rfl
  | cons v vs ih => rw [settledItems, ih, List.map_cons]

theorem settledMembers_eq (ms : Members) : settledMembers ms = ms.map fun m => (m.1, m.2.settled) := by
  induction ms with
  | nil => rfl
  | cons m ms ih => rw [settledMembers, ih, List.map_cons]

theorem names_settledMembers (ms : Members) : (settledMembers ms).map (·.1) = ms.map (·.1) := by
  rw [settledMembers_eq, List.map_map]
  rfl

mutual

/-- What has a text of its own is settled already. -/
theorem settled_of_hasText : (v : Json) → v.every hasText = true → v.settled = v
  | .null, _ | .bool _, _ | .string _, _ | .number (.int _), _ | .number (.float (.finite _)), _ => rfl
  | .number (.float (.infinite _)), h | .number (.float .nan), h | .foreign _, h => by cases h
  | .array vs, h => by
    rw [every, Bool.and_eq_true] at h
    rw [settled, settledItems_of_hasText vs h.2]
  | .object ms, h => by
    rw [every, Bool.and_eq_true] at h
    rw [settled, settledMembers_of_hasText ms h.2]

theorem settledItems_of_hasText : (vs : List Json) → everyItem hasText vs = true → settledItems vs = vs
  | [], _ => rfl
  | v :: vs, h => by
    rw [everyItem, Bool.and_eq_true] at h
    rw [settledItems, settled_of_hasText v h.1, settledItems_of_hasText vs h.2]

theorem settledMembers_of_hasText : (ms : Members) → everyMember hasText ms = true → settledMembers ms = ms
  | [], _ => rfl
  | (n, v) :: ms, h => by
    rw [everyMember, Bool.and_eq_true] at h
    rw [settledMembers, settled_of_hasText v h.1, settledMembers_of_hasText ms h.2]

end

mutual

/-- A settled value has a text throughout. -/
theorem hasText_settled : (v : Json) → v.settled.every hasText = true
  | .null | .bool _ | .string _ | .number (.int _) | .number (.float (.finite _)) => rfl
  | .number (.float (.infinite _)) | .number (.float .nan) | .foreign _ => rfl
  | .array vs => by
    rw [settled, every, hasText_settledItems vs]
    rfl
  | .object ms => by
    rw [settled, every, hasText_settledMembers ms]
    rfl

theorem hasText_settledItems : (vs : List Json) → everyItem hasText (settledItems vs) = true
  | [] => rfl
  | v :: vs => by
    rw [settledItems, everyItem, hasText_settled v, hasText_settledItems vs, Bool.and_self]

theorem hasText_settledMembers : (ms : Members) → everyMember hasText (settledMembers ms) = true
  | [] => rfl
  | (n, v) :: ms => by
    rw [settledMembers, everyMember, hasText_settled v, hasText_settledMembers ms, Bool.and_self]

end

mutual

/-- The text of a value is that of the settled value. -/
theorem renderChars_settled : (v : Json) → renderChars v.settled = renderChars v
  | .null | .string _ | .number (.int _) | .number (.float (.finite _)) => rfl
  | .bool _ => rfl
  | .number (.float (.infinite true)) | .number (.float (.infinite false)) | .number (.float .nan) => rfl
  | .foreign _ => rfl
  | .array [] | .object [] => rfl
  | .array (v :: vs) => by
    rw [settled, settledItems, renderChars, renderChars, renderChars_settled v, renderItems_settledItems vs]
  | .object ((n, v) :: ms) => by
    rw [settled, settledMembers, renderChars, renderChars, renderChars_settled v,
      renderMembers_settledMembers ms]

theorem renderItems_settledItems : (vs : List Json) → renderItems (settledItems vs) = renderItems vs
  | [] => rfl
  | v :: vs => by
    rw [settledItems, renderItems, renderItems, renderChars_settled v, renderItems_settledItems vs]

theorem renderMembers_settledMembers : (ms : Members) → renderMembers (settledMembers ms) = renderMembers ms
  | [] => rfl
  | (n, v) :: ms => by
    rw [settledMembers, renderMembers, renderMembers, renderChars_settled v, renderMembers_settledMembers ms]

end

mutual

/-- A value without anything foreign can be written if the writer follows all its levels. -/
theorem fault?_eq_none : (v : Json) → {n : Nat} → v.every notForeign = true → v.levels < n → fault? n v = none
  | .null, n + 1, _, _ | .bool _, n + 1, _, _ | .string _, n + 1, _, _ | .number _, n + 1, _, _ => rfl
  | .foreign _, _ + 1, h, _ => by cases h
  | .array vs, n + 1, hf, hl => by
    rw [every, Bool.and_eq_true] at hf
    rw [levels] at hl
    rw [fault?, faultInItems?_eq_none vs hf.2 (by omega)]
  | .object ms, n + 1, hf, hl => by
    rw [every, Bool.and_eq_true] at hf
    rw [levels] at hl
    rw [fault?, faultInMembers?_eq_none ms hf.2 (by omega)]

theorem faultInItems?_eq_none : (vs : List Json) → {n : Nat} → everyItem notForeign vs = true →
    levelsOfItems vs < n → faultInItems? n vs = none
  | [], _, _, _ => by rw [faultInItems?]
  | v :: vs, n, hf, hl => by
    rw [everyItem, Bool.and_eq_true] at hf
    rw [levelsOfItems, Nat.max_lt] at hl
    rw [faultInItems?, fault?_eq_none v hf.1 hl.1, faultInItems?_eq_none vs hf.2 hl.2]
    rfl

theorem faultInMembers?_eq_none : (ms : Members) → {n : Nat} → everyMember notForeign ms = true →
    levelsOfMembers ms < n → faultInMembers? n ms = none
  | [], _, _, _ => by rw [faultInMembers?]
  | (_, v) :: ms, n, hf, hl => by
    rw [everyMember, Bool.and_eq_true] at hf
    rw [levelsOfMembers, Nat.max_lt] at hl
    rw [faultInMembers?, fault?_eq_none v hf.1 hl.1, faultInMembers?_eq_none ms hf.2 hl.2]
    rfl

end

mutual

/-- To settle a value puts nothing in the way of its writing. -/
theorem fault?_settled : (v : Json) → {n : Nat} → fault? n v = none → fault? n v.settled = none
  | .null, _, h | .bool _, _, h | .string _, _, h | .number (.int _), _, h => h
  | .number (.float (.finite _)), _, h => h
  | .number (.float (.infinite _)), 0, h | .number (.float .nan), 0, h | .foreign _, 0, h => h
  | .number (.float (.infinite _)), _ + 1, _ | .number (.float .nan), _ + 1, _ | .foreign _, _ + 1, _ => rfl
  | .array _, 0, h | .object _, 0, h => h
  | .array vs, _ + 1, h => by
    rw [fault?] at h
    rw [settled, fault?, faultInItems?_settledItems vs h]
  | .object ms, _ + 1, h => by
    rw [fault?] at h
    rw [settled, fault?, faultInMembers?_settledMembers ms h]

theorem faultInItems?_settledItems : (vs : List Json) → {n : Nat} → faultInItems? n vs = none →
    faultInItems? n (settledItems vs) = none
  | [], _, h => h
  | v :: vs, n, h => by
    rw [faultInItems?, Option.or_eq_none_iff] at h
    rw [settledItems, faultInItems?, fault?_settled v h.1, faultInItems?_settledItems vs h.2]
    rfl

theorem faultInMembers?_settledMembers : (ms : Members) → {n : Nat} → faultInMembers? n ms = none →
    faultInMembers? n (settledMembers ms) = none
  | [], _, h => h
  | (_, v) :: ms, n, h => by
    rw [faultInMembers?, Option.or_eq_none_iff] at h
    rw [settledMembers, faultInMembers?, fault?_settled v h.1, faultInMembers?_settledMembers ms h.2]
    rfl

end

end ScanAdapter.Json
