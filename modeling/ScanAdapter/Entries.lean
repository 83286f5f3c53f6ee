/-!
# Named entries

A row of entries with distinct names keeps the order in which the names came first. To give a name a value
once more changes the value and leaves the place.
-/
namespace ScanAdapter

abbrev Entries (α : Type) := List (String × α)

namespace Entries

variable {α : Type}

/-- Give `name` a value: in its place if it has one, else at the end. -/
def put (name : String) (value : α) : Entries α → Entries α
  | [] => [(name, value)]
  | (n, v) :: rest => if n = name then (n, value) :: rest else (n, v) :: put name value rest

/-- Entries as they were written, names that repeat brought together. -/
def gather (written : Entries α) : Entries α := written.foldl (fun es e => put e.1 e.2 es) []

/-- The value of a name. -/
def get? (name : String) (es : Entries α) : Option α := es.lookup name

theorem get?_eq_none_iff {name : String} {es : Entries α} : get? name es = none ↔ name ∉ es.map (·.1) := by
  rw [get?, List.lookup_eq_none_iff, List.mem_map]
  constructor
  · rintro h ⟨e, he, rfl⟩
    simpa using h e he
  · intro h e he
    have hne : name ≠ e.1 := fun heq => h ⟨e, he, heq.symm⟩
    simpa using hne

theorem get?_put_self (name : String) (value : α) (es : Entries α) :
    get? name (put name value es) = some value := by
  induction es with
  | nil => simp [put, get?]
  | cons e es ih =>
    obtain ⟨n, v⟩ := e
    by_cases h : n = name
    · simp [put, h, get?]
    · simp only [get?] at ih
      have hb : (name == n) = false := by simpa using fun e => h e.symm
      simp [put, h, get?, List.lookup_cons, hb, ih]

theorem get?_put_of_ne {name other : String} (value : α) (es : Entries α) (h : other ≠ name) :
    get? other (put name value es) = get? other es := by
  have ho : (other == name) = false := by simpa using h
  induction es with
  | nil => simp [put, get?, List.lookup_cons, ho]
  | cons e es ih =>
    obtain ⟨n, v⟩ := e
    simp only [get?] at ih
    by_cases hn : n = name
    · subst hn
      simp [put, get?, List.lookup_cons, ho]
    · simp [put, hn, get?, List.lookup_cons, ih]

/-! ## Distinct names -/

theorem get?_eq_some_iff {name : String} {value : α} {es : Entries α} (h : (es.map (·.1)).Nodup) :
    get? name es = some value ↔ (name, value) ∈ es := by
  induction es with
  | nil => simp [get?]
  | cons e es ih =>
    obtain ⟨n, v⟩ := e
    rw [List.map_cons, List.nodup_cons] at h
    have ih := ih h.2
    simp only [get?] at ih
    by_cases hn : name = n
    · subst hn
      have hnot : (name, value) ∉ es := fun hmem => h.1 (List.mem_map.2 ⟨_, hmem, rfl⟩)
      simp [get?, hnot, eq_comm]
    · have hb : (name == n) = false := by simpa using hn
      simp [get?, List.lookup_cons, hb, ih, hn]

theorem mem_names_put {name other : String} {value : α} {es : Entries α} :
    other ∈ (put name value es).map (·.1) ↔ other = name ∨ other ∈ es.map (·.1) := by
  induction es with
  | nil => simp [put]
  | cons e es ih =>
    obtain ⟨n, v⟩ := e
    by_cases h : n = name
    · subst h
      simp [put]
    · simp only [put, if_neg h, List.map_cons, List.mem_cons, ih]
      exact or_left_comm

theorem nodup_put {name : String} {value : α} {es : Entries α} (h : (es.map (·.1)).Nodup) :
    ((put name value es).map (·.1)).Nodup := by
  induction es with
  | nil => simp [put]
  | cons e es ih =>
    obtain ⟨n, v⟩ := e
    rw [List.map_cons, List.nodup_cons] at h
    by_cases hn : n = name
    · rw [put, if_pos hn, List.map_cons, List.nodup_cons]
      exact h
    · rw [put, if_neg hn, List.map_cons, List.nodup_cons, mem_names_put]
      exact ⟨fun hm => hm.elim hn h.1, ih h.2⟩

theorem nodup_foldl_put (written es : Entries α) (h : (es.map (·.1)).Nodup) :
    ((written.foldl (fun es e => put e.1 e.2 es) es).map (·.1)).Nodup := by
  induction written generalizing es with
  | nil => exact h
  | cons e written ih => exact ih _ (nodup_put h)

/-- However they were written, gathered entries have distinct names. -/
theorem nodup_gather (written : Entries α) : ((gather written).map (·.1)).Nodup :=
  nodup_foldl_put written [] (by simp)

theorem put_of_not_mem {name : String} (value : α) {es : Entries α} (h : name ∉ es.map (·.1)) :
    put name value es = es ++ [(name, value)] := by
  induction es with
  | nil => rfl
  | cons e es ih =>
    rw [List.map_cons, List.mem_cons, not_or] at h
    rw [put, if_neg (Ne.symm h.1), ih h.2, List.cons_append]

theorem foldl_put_of_nodup (written es : Entries α) (h : ((es ++ written).map (·.1)).Nodup) :
    written.foldl (fun es e => put e.1 e.2 es) es = es ++ written := by
  induction written generalizing es with
  | nil => simp
  | cons e written ih =>
    have hnot : e.1 ∉ es.map (·.1) := by
      intro hm
      rw [List.map_append, List.nodup_append] at h
      exact h.2.2 e.1 hm e.1 (by simp) rfl
    rw [List.foldl_cons, put_of_not_mem e.2 hnot, ih _ (by simpa using h)]
    simp

/-- Entries with distinct names are gathered as they are. -/
theorem gather_of_nodup {es : Entries α} (h : (es.map (·.1)).Nodup) : gather es = es := by
  simpa [gather] using foldl_put_of_nodup es [] (by simpa using h)

/-- Giving a name a value brings no other value in. -/
theorem mem_put {name : String} {value : α} {es : Entries α} {e : String × α} (h : e ∈ put name value es) :
    e = (name, value) ∨ e ∈ es := by
  induction es with
  | nil => simpa [put] using h
  | cons f es ih =>
    obtain ⟨n, v⟩ := f
    by_cases hn : n = name
    · subst hn
      rw [put, if_pos rfl, List.mem_cons] at h
      exact h.imp_right (List.mem_cons_of_mem _)
    · rw [put, if_neg hn, List.mem_cons] at h
      rcases h with h | h
      · exact .inr (h ▸ List.mem_cons_self)
      · exact (ih h).imp_right (List.mem_cons_of_mem _)

theorem mem_foldl_put {written es : Entries α} {e : String × α}
    (h : e ∈ written.foldl (fun es e => put e.1 e.2 es) es) : e ∈ written ∨ e ∈ es := by
  induction written generalizing es with
  | nil => exact .inr h
  | cons f written ih =>
    rcases ih h with h | h
    · exact .inl (List.mem_cons_of_mem _ h)
    · rcases mem_put h with h | h
      · exact .inl (h ▸ List.mem_cons_self)
      · exact .inr h

theorem mem_of_mem_gather {written : Entries α} {e : String × α} (h : e ∈ gather written) : e ∈ written :=
  (mem_foldl_put h).resolve_right (by simp)

end Entries

end ScanAdapter
