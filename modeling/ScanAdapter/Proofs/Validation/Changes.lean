import Mathlib.Data.List.Nodup
import Mathlib.Data.List.Pairwise
import Mathlib.Logic.Relation
import ScanAdapter.Proofs.Validation.Fields
import ScanAdapter.Proofs.Wire.Decoded

/-!
# Changes that a model does not see

Of an object a model sees only what its fields are found to be, so neither the order of the members nor a member that no
field is found at makes a difference (`Unseen`). A field that is written under its own name, and not under its name in
the data, is found there (`Renamed`). Such changes may be made in any model that lies in a value, at any depth
(`Shape.Changes`): a reader does not see them if its parts do not (`Respects`).
-/
namespace ScanAdapter

/-! ## Members with one more, or another -/

namespace Entries

variable {α : Type} {before after es es' : Entries α} {name other : String} {v w : α}

theorem get?_append (name : String) (before after : Entries α) :
    get? name (before ++ after) = (get? name before).or (get? name after) := List.lookup_append

theorem get?_insert_of_ne (h : other ≠ name) :
    get? other (before ++ (name, v) :: after) = get? other (before ++ after) := by
  have hb : (other == name) = false := by simpa using h
  rw [get?_append, get?_append]
  simp [get?, List.lookup_cons, hb]

theorem exists_get? (h : name ∈ es.map (·.1)) : ∃ v, get? name es = some v :=
  Option.ne_none_iff_exists'.1 fun hnone => get?_eq_none_iff.1 hnone h

theorem get?_insert_self (h : name ∉ before.map (·.1)) : get? name (before ++ (name, v) :: after) = some v := by
  rw [get?_append, get?_eq_none_iff.2 h]
  simp [get?]

/-- A value that is put in another's stead is seen where the other was, or neither is. -/
theorem get?_replace (other name : String) (v w : α) (before after : Entries α) :
    get? other (before ++ (name, v) :: after) = get? other (before ++ (name, w) :: after) ∨
      other = name ∧ get? other (before ++ (name, v) :: after) = some v ∧
        get? other (before ++ (name, w) :: after) = some w := by
  by_cases hother : other = name
  · subst hother
    by_cases hbefore : other ∈ before.map (·.1)
    · obtain ⟨u, hu⟩ := exists_get? hbefore
      rw [get?_append, get?_append, hu]
      exact .inl rfl
    · exact .inr ⟨rfl, get?_insert_self hbefore, get?_insert_self hbefore⟩
  · rw [get?_insert_of_ne hother, get?_insert_of_ne hother]
    exact .inl rfl

theorem get?_perm (h : es.Perm es') (hdiffer : (es.map (·.1)).Nodup) : get? name es = get? name es' := by
  have hdiffer' : (es'.map (·.1)).Nodup := (h.map _).nodup_iff.1 hdiffer
  refine Option.ext fun u => ?_
  rw [get?_eq_some_iff hdiffer, get?_eq_some_iff hdiffer']
  exact h.mem_iff

end Entries

/-! ## What a field is found to be -/

namespace FieldName

variable {f : FieldName} {ms ms' : Members}

/-- The names under which a field may be found. -/
def names (f : FieldName) : List String := f.own :: f.wire.toList

theorem own_mem_names (f : FieldName) : f.own ∈ f.names := List.mem_cons_self

theorem wire_mem_names {wire : String} (h : f.wire = some wire) : wire ∈ f.names := by simp [names, h]

theorem find?_of_wire {wire : String} {v : Json} (hwire : f.wire = some wire) (h : ms.get? wire = some v) :
    f.find? ms = some (wire, v) := by
  simp [find?, hwire, h]

theorem find?_of_own {wire : String} {v : Json} (hwire : f.wire = some wire) (hnone : ms.get? wire = none)
    (h : ms.get? f.own = some v) : f.find? ms = some (f.own, v) := by
  simp [find?, hwire, hnone, h]

theorem find?_congr (h : ∀ n ∈ f.names, ms.get? n = ms'.get? n) : f.find? ms = f.find? ms' := by
  have hown := h f.own f.own_mem_names
  unfold find?
  split
  · rw [hown]
  · rename_i wire hwire
    rw [hown, h wire (wire_mem_names hwire)]

/-- A value that is put in another's stead is what the field is found to be, where the other was, or neither is. -/
theorem find?_replace (f : FieldName) (name : String) (v w : Json) (before after : Members) :
    f.find? (before ++ (name, v) :: after) = f.find? (before ++ (name, w) :: after) ∨
      name ∈ f.names ∧ f.find? (before ++ (name, v) :: after) = some (name, v) ∧
        f.find? (before ++ (name, w) :: after) = some (name, w) := by
  have hown := Entries.get?_replace f.own name v w before after
  unfold find?
  split
  · rcases hown with hsame | ⟨rfl, hv, hw⟩
    · rw [hsame]
      exact .inl rfl
    · rw [hv, hw]
      exact .inr ⟨f.own_mem_names, rfl, rfl⟩
  · rename_i wire hwire
    rcases Entries.get?_replace wire name v w before after with hsame | ⟨rfl, hv, hw⟩
    · rw [hsame]
      cases Entries.get? wire (before ++ (name, w) :: after) with
      | some u => exact .inl rfl
      | none =>
        rcases hown with hsame | ⟨rfl, hv, hw⟩
        · rw [hsame]
          exact .inl rfl
        · rw [hv, hw]
          exact .inr ⟨f.own_mem_names, rfl, rfl⟩
    · rw [hv, hw]
      exact .inr ⟨wire_mem_names hwire, rfl, rfl⟩

end FieldName

/-! ## Changes of a model's members -/

/-- How the members of a model with these fields may change. -/
abbrev MemberChange := List FieldName → Members → Members → Prop

/-- A change that no field sees: the members in another order, one more member that no field goes by, or one more under
a field's own name where the name in the data is there too. -/
inductive Unseen (fields : List FieldName) : Members → Members → Prop
  | order {ms ms' : Members} (h : ms.Perm ms') (hdiffer : (ms.map (·.1)).Nodup) : Unseen fields ms ms'
  | stranger {before after : Members} {name : String} (v : Json) (h : ∀ f ∈ fields, name ∉ f.names) :
      Unseen fields (before ++ after) (before ++ (name, v) :: after)
  | covered {before after : Members} {f : FieldName} {wire : String} (v : Json) (hf : f ∈ fields)
      (hwire : f.wire = some wire) (hthere : wire ∈ (before ++ after).map (·.1)) :
      Unseen fields (before ++ after) (before ++ (f.own, v) :: after)

/-- A field that was there under its name in the data is there under its own. -/
inductive Renamed (fields : List FieldName) : Members → Members → Prop
  | own {before after : Members} {f : FieldName} {wire : String} (v : Json) (hf : f ∈ fields)
      (hwire : f.wire = some wire) (hnot : wire ∉ (before ++ after).map (·.1))
      (hnot' : f.own ∉ (before ++ after).map (·.1)) :
      Renamed fields (before ++ (wire, v) :: after) (before ++ (f.own, v) :: after)

/-- No two fields of the model go by one name. -/
def NamesDistinct (fields : List FieldName) : Prop := (fields.flatMap FieldName.names).Nodup

instance (fields : List FieldName) : Decidable (NamesDistinct fields) := inferInstanceAs (Decidable (List.Nodup _))

/-- What is in two of many lists without a repetition is in one list only. -/
theorem eq_of_nodup_flatMap {α : Type*} {β : Type*} {as : List α} {names : α → List β} (h : (as.flatMap names).Nodup)
    {a b : α} (ha : a ∈ as) (hb : b ∈ as) {n : β} (hna : n ∈ names a) (hnb : n ∈ names b) : a = b := by
  by_contra hne
  have hsymm : Std.Symm (Function.onFun List.Disjoint names) := ⟨fun _ _ hdisjoint _ hn hn' => hdisjoint hn' hn⟩
  exact (List.nodup_flatMap.1 h).2.forall ha hb hne hna hnb

theorem NamesDistinct.own_ne_wire {fields : List FieldName} {f : FieldName} (h : NamesDistinct fields) (hf : f ∈ fields)
    {wire : String} (hwire : f.wire = some wire) : f.own ≠ wire := by
  have hnodup := (List.nodup_flatMap.1 h).1 f hf
  rintro rfl
  simp [FieldName.names, hwire] at hnodup

section

variable {fields : List FieldName} {ms ms' : Members} {f : FieldName}

theorem Unseen.find?_eq (h : Unseen fields ms ms') (hdistinct : NamesDistinct fields) (hf : f ∈ fields) :
    f.find? ms = f.find? ms' := by
  cases h with
  | order hperm hdiffer => exact FieldName.find?_congr fun n _ => Entries.get?_perm hperm hdiffer
  | stranger v hstranger =>
    refine FieldName.find?_congr fun n hn => (Entries.get?_insert_of_ne ?_).symm
    rintro rfl
    exact hstranger f hf hn
  | @covered before after g wire v hg hwire hthere =>
    by_cases hfg : f = g
    · subst hfg
      have hne : wire ≠ f.own := (hdistinct.own_ne_wire hf hwire).symm
      obtain ⟨u, hu⟩ := Entries.exists_get? hthere
      rw [FieldName.find?_of_wire hwire hu, FieldName.find?_of_wire hwire ((Entries.get?_insert_of_ne hne).trans hu)]
    · refine FieldName.find?_congr fun n hn => (Entries.get?_insert_of_ne ?_).symm
      rintro rfl
      exact hfg (eq_of_nodup_flatMap hdistinct hf hg hn g.own_mem_names)

/-- Where it was renamed the field is found under its own name, and the others are found as before. -/
theorem Renamed.find?_eq (h : Renamed fields ms ms') (hdistinct : NamesDistinct fields) (hf : f ∈ fields) :
    f.find? ms = f.find? ms' ∨ ∃ name name' v, f.find? ms = some (name, v) ∧ f.find? ms' = some (name', v) := by
  obtain @⟨before, after, g, wire, v, hg, hwire, hnot, hnot'⟩ := h
  by_cases hfg : f = g
  · subst hfg
    have hne : wire ≠ f.own := (hdistinct.own_ne_wire hf hwire).symm
    have hbefore {n : String} (h : n ∉ (before ++ after).map (·.1)) : n ∉ before.map (·.1) := by
      rw [List.map_append] at h
      exact fun hmem => h (List.mem_append_left _ hmem)
    have habsent : Entries.get? wire (before ++ (f.own, v) :: after) = none :=
      (Entries.get?_insert_of_ne hne).trans (Entries.get?_eq_none_iff.2 hnot)
    exact .inr ⟨wire, f.own, v, FieldName.find?_of_wire hwire (Entries.get?_insert_self (hbefore hnot)),
      FieldName.find?_of_own hwire habsent (Entries.get?_insert_self (hbefore hnot'))⟩
  · left
    refine FieldName.find?_congr fun n hn => ?_
    have hwire' : n ≠ wire := by
      rintro rfl
      exact hfg (eq_of_nodup_flatMap hdistinct hf hg hn (FieldName.wire_mem_names hwire))
    have hown' : n ≠ g.own := by
      rintro rfl
      exact hfg (eq_of_nodup_flatMap hdistinct hf hg hn g.own_mem_names)
    rw [Entries.get?_insert_of_ne hwire', Entries.get?_insert_of_ne hown']

end

/-! ## Changes at any depth -/

/-- The values differ by one such change of the members of a model that lies in them. -/
inductive Shape.Changes (C : MemberChange) : Shape → Json → Json → Prop
  | here {fields : List (FieldName × Shape)} {ms ms' : Members} (h : C (fields.map (·.1)) ms ms') :
      Changes C (.model fields) (.object ms) (.object ms')
  | field {fields : List (FieldName × Shape)} {f : FieldName} {s : Shape} {before after : Members} {name : String}
      {v w : Json} (hf : (f, s) ∈ fields) (hname : name ∈ f.names) (h : Changes C s v w) :
      Changes C (.model fields) (.object (before ++ (name, v) :: after)) (.object (before ++ (name, w) :: after))
  | optional {s : Shape} {v w : Json} (h : Changes C s v w) : Changes C (.optional s) v w
  | item {s : Shape} {before after : List Json} {v w : Json} (h : Changes C s v w) :
      Changes C (.list s) (.array (before ++ v :: after)) (.array (before ++ w :: after))
  | entry {s : Shape} {before after : Members} {name : String} {v w : Json} (h : Changes C s v w) :
      Changes C (.mapOf s) (.object (before ++ (name, v) :: after)) (.object (before ++ (name, w) :: after))

open Validated

variable {C : MemberChange} {R : Likeness}

/-- Null has no model in it. -/
theorem Shape.Changes.ne_null {s : Shape} {v w : Json} (h : s.Changes C v w) : v ≠ .null ∧ w ≠ .null := by
  induction h with
  | here | field | item | entry => exact ⟨nofun, nofun⟩
  | optional _ ih => exact ih

/-- Such changes of its members make no difference to a field. -/
def Keeps (C : MemberChange) (R : Likeness) : Prop :=
  ∀ (fields : List FieldName) (ms ms' : Members), NamesDistinct fields → C fields ms ms' →
    ∀ x : Field, x.name ∈ fields → R x.Value (x.outcome ms) (x.outcome ms')

theorem keeps_unseen (hR : Comparison R) : Keeps Unseen R := by
  intro fields ms ms' hdistinct hunseen x hx
  rw [Field.outcome_congr (hunseen.find?_eq hdistinct hx)]
  exact hR.refl _

theorem keeps_renamed : Keeps Renamed fun α => @SameValue α := by
  intro fields ms ms' hdistinct hrenamed x hx
  rcases hrenamed.find?_eq hdistinct hx with hsame | ⟨name, name', v, hfind, hfind'⟩
  · rw [Field.outcome_congr hsame]
    exact .refl _
  · rw [Field.outcome_of_find? hfind, Field.outcome_of_find? hfind']
    exact (SameValue.refl _).under _ _

theorem Keeps.or {D : MemberChange} (hC : Keeps C R) (hD : Keeps D R) :
    Keeps (fun fields ms ms' => C fields ms ms' ∨ D fields ms ms') R := by
  intro fields ms ms' hdistinct h x hx
  exact h.elim (fun h => hC _ _ _ hdistinct h x hx) fun h => hD _ _ _ hdistinct h x hx

/-- Such changes in a value of this shape make no difference to its reader. -/
def Respects (C : MemberChange) (R : Likeness) {α : Type} (s : Shape) (read : Json → Validated α) : Prop :=
  ∀ v w : Json, s.Changes C v w → R α (read v) (read w)

namespace Respects

variable {α : Type} {s : Shape} {read : Json → Validated α}

theorem whole (read : Json → Validated α) : Respects C R .whole read := nofun

theorem optional (hR : Comparison R) (h : Respects C R s read) :
    Respects C R (.optional s) (Validated.optional read) := by
  intro v w hchanges
  obtain ⟨hv, hw⟩ := hchanges.ne_null
  have hsome {u : Json} (hu : u ≠ .null) : Validated.optional read u = some <$> read u := by
    cases u with
    | null => exact absurd rfl hu
    | _ => rfl
  rw [hsome hv, hsome hw]
  cases hchanges with
  | optional hchanges => exact hR.map some (h _ _ hchanges)

theorem items (hR : Comparison R) {v w : Json} (h : R α (read v) (read w)) (before after : List Json) (index : Nat) :
    R (List α) (Validated.items read index (before ++ v :: after))
      (Validated.items read index (before ++ w :: after)) := by
  induction before generalizing index with
  | nil => exact hR.ap (hR.map List.cons (hR.under (.index index) h)) (hR.refl _)
  | cons u before ih => exact hR.ap (hR.refl _) (ih (index + 1))

theorem list (hR : Comparison R) (h : Respects C R s read) : Respects C R (.list s) (Validated.list read) := by
  intro v w hchanges
  cases hchanges with
  | item hchanges => exact items hR (h _ _ hchanges) _ _ 0

theorem members (hR : Comparison R) {v w : Json} (h : R α (read v) (read w)) (before after : Members) (name : String) :
    R (List (String × α)) (Validated.members read (before ++ (name, v) :: after))
      (Validated.members read (before ++ (name, w) :: after)) := by
  induction before with
  | nil =>
    have hentry := hR.map (fun a => (name, a)) (hR.under (.name name) h)
    exact hR.ap (hR.map List.cons hentry) (hR.refl _)
  | cons m before ih => exact hR.ap (hR.refl _) ih

theorem mapOf (hR : Comparison R) (h : Respects C R s read) : Respects C R (.mapOf s) (Validated.mapOf read) := by
  intro v w hchanges
  cases hchanges with
  | entry hchanges => exact members hR (h _ _ hchanges) _ _ _

/-- A model does not see what no field of it sees. -/
theorem model (hR : Comparison R) (hC : Keeps C R) {xs : List Field}
    (hcollects : Collects (fun ms => read (.object ms)) (xs.map Field.part))
    (hdistinct : NamesDistinct (xs.map Field.name)) (hfields : ∀ x ∈ xs, Respects C R x.shape x.read) :
    Respects C R (.ofFields xs) read := by
  have hparts {ms ms' : Members} (h : ∀ x ∈ xs, R x.Value (x.outcome ms) (x.outcome ms')) :
      R α (read (.object ms)) (read (.object ms')) := by
    refine @Collects.congr _ _ _ _ R hR hcollects ms ms' fun p hp => ?_
    obtain ⟨x, hx, rfl⟩ := List.mem_map.1 hp
    exact h x hx
  intro v w hchanges
  cases hchanges with
  | here hmembers =>
    have hnames : (xs.map fun x => (x.name, x.shape)).map (·.1) = xs.map Field.name := by simp
    rw [hnames] at hmembers
    exact hparts fun x hx => hC _ _ _ hdistinct hmembers x (List.mem_map_of_mem hx)
  | @field _ f s before after n v w hf hname hchanges =>
    obtain ⟨y, hy, heq⟩ := List.mem_map.1 hf
    obtain ⟨rfl, rfl⟩ := Prod.mk.inj heq
    refine hparts fun x hx => ?_
    rcases x.name.find?_replace n v w before after with hsame | ⟨hn, hfind, hfind'⟩
    · rw [Field.outcome_congr hsame]
      exact hR.refl _
    · have hnodup : (xs.flatMap fun x => x.name.names).Nodup := by
        rw [← List.flatMap_map]
        exact hdistinct
      obtain rfl : x = y := eq_of_nodup_flatMap hnodup hx hy hn hname
      rw [Field.outcome_of_find? hfind, Field.outcome_of_find? hfind']
      exact hR.under _ (hfields x hx _ _ hchanges)

/-- Neither do any number of changes, made or unmade. -/
theorem eqvGen (h : Respects C R s read) (hequivalence : Equivalence (R α)) {v w : Json}
    (hchanges : Relation.EqvGen (s.Changes C) v w) : R α (read v) (read w) :=
  (hequivalence.comap read).eqvGen_iff.1 (hchanges.mono h)

end Respects

end ScanAdapter
