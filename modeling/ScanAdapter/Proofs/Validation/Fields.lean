import ScanAdapter.Proofs.Validation.Parts

/-!
# Fields of a model

A model is checked by its fields (`Collects`). A field is bad if it must be there and is absent, or if its value is
refused (`Field.IsBad`); a model is refused exactly if a field is bad, with the errors of its fields in the order in
which they are declared (`Collects.fields_refused_iff`).
-/
namespace ScanAdapter

/-- Where the models lie in a value. A value without any is taken as a whole. -/
inductive Shape
  | whole
  | optional (value : Shape)
  | list (item : Shape)
  | mapOf (entry : Shape)
  | model (fields : List (FieldName × Shape))

/-- A field of a model: its names, its value if it may be absent, and its check. -/
structure Field where
  name : FieldName
  Value : Type
  default : Option Value
  read : Json → Validated Value
  shape : Shape

/-- The shape of a model with these fields. -/
def Shape.ofFields (xs : List Field) : Shape := .model (xs.map fun x => (x.name, x.shape))

namespace Field

open Validated

variable (x : Field) (ms : Members)

/-- What the members make of a field. -/
def outcome : Validated x.Value :=
  match x.default with
  | none => x.name.required x.read ms
  | some default => x.name.orElse default x.read ms

def part : Part Members := ⟨x.Value, x.outcome⟩

/-- The field must be there and is not, or its value is refused. -/
def IsBad : Prop :=
  match x.name.find? ms with
  | none => x.default = none
  | some (_, v) => (x.read v).IsRefused

/-- What is wrong with the field, at the name under which it was found. A field that is missing is missed under its name
in the data. -/
def errors : List Defect :=
  match x.name.find? ms with
  | none => if x.default.isNone then [⟨[.name (x.name.wire.getD x.name.own)], .missing⟩] else []
  | some (name, v) => (x.read v).defects.map fun d => { d with path := .name name :: d.path }

variable {x ms}

theorem outcome_of_find? {name : String} {v : Json} (h : x.name.find? ms = some (name, v)) :
    x.outcome ms = (x.read v).under (.name name) := by
  unfold outcome
  split
  · rw [FieldName.required, h]
  · rw [FieldName.orElse, h]

theorem isRefused_outcome (x : Field) (ms : Members) : (x.outcome ms).IsRefused ↔ x.IsBad ms := by
  unfold IsBad
  split
  · rename_i hfind
    unfold outcome
    split
    · rename_i hdefault
      simp [FieldName.required, hfind, hdefault, IsRefused]
    · rename_i default hdefault
      simp [FieldName.orElse, hfind, hdefault, IsRefused]
  · rename_i name v hfind
    rw [outcome_of_find? hfind, isRefused_under]

theorem defects_outcome (x : Field) (ms : Members) : (x.outcome ms).defects = x.errors ms := by
  unfold errors
  split
  · rename_i hfind
    unfold outcome
    split
    · rename_i hdefault
      simp [FieldName.required, hfind, hdefault, defects]
    · rename_i default hdefault
      simp [FieldName.orElse, hfind, hdefault, defects]
  · rename_i name v hfind
    rw [outcome_of_find? hfind, defects_under]

/-- What a field makes of the members depends only on what is found of it. -/
theorem outcome_congr {ms' : Members} (h : x.name.find? ms = x.name.find? ms') : x.outcome ms = x.outcome ms' := by
  unfold outcome FieldName.required FieldName.orElse
  rw [h]

end Field

/-- A model is refused exactly if a field is bad, with the errors of its fields. -/
theorem Collects.fields_refused_iff {α : Type} {checked : Members → Validated α} {xs : List Field}
    (h : Collects checked (xs.map Field.part)) (ms : Members) (ds : List Defect) :
    checked ms = .refused ds ↔ (∃ x ∈ xs, x.IsBad ms) ∧ ds = xs.flatMap fun x => x.errors ms := by
  have hdefects : (checked ms).defects = xs.flatMap fun x => x.errors ms := by
    rw [h.defects, List.flatMap_map]
    exact congrArg xs.flatMap (funext fun x => x.defects_outcome ms)
  have hrefused : (checked ms).IsRefused ↔ ∃ x ∈ xs, x.IsBad ms := by
    rw [h.isRefused_iff]
    constructor
    · rintro ⟨p, hp, hrefused⟩
      obtain ⟨x, hx, rfl⟩ := List.mem_map.1 hp
      exact ⟨x, hx, (x.isRefused_outcome ms).1 hrefused⟩
    · rintro ⟨x, hx, hbad⟩
      exact ⟨x.part, List.mem_map_of_mem hx, (x.isRefused_outcome ms).2 hbad⟩
  rw [Validated.eq_refused_iff, hrefused, hdefects]

end ScanAdapter
