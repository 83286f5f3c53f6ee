import ScanAdapter.Proofs.Wire.RoundTrip
import Mathlib.Data.List.Basic

/-!
# What is decoded can be encoded

A reader passes parts of its input on into what it accepts (`Yields`). The free-form attributes of an item were
part of a text, so they have fewer levels than the writer follows and nothing foreign in them: a job that was
decoded never fails to be encoded. Whether a reader takes a job rests on the attributes of its findings alone.
-/
namespace ScanAdapter

open Json (Followed)

namespace FieldName

variable {f : FieldName} {ms : Members} {name : String} {v : Json}

theorem mem_of_get? {name : String} {v : Json} (h : ms.get? name = some v) : (name, v) ∈ ms := by
  induction ms with
  | nil => cases h
  | cons m ms ih =>
    obtain ⟨n, w⟩ := m
    rw [Entries.get?, List.lookup_cons] at h
    split at h
    · rename_i hn
      cases h
      rw [eq_of_beq hn]
      exact List.mem_cons_self
    · exact List.mem_cons_of_mem _ (ih h)

/-- What a field is found to be is a member, under one of the field's names. -/
theorem mem_of_find? (h : f.find? ms = some (name, v)) : ∃ n, (n, v) ∈ ms := by
  have own : (ms.get? f.own).map (fun w => (f.own, w)) = some (name, v) → ∃ n, (n, v) ∈ ms := by
    intro h
    obtain ⟨w, hw, heq⟩ := Option.map_eq_some_iff.1 h
    cases heq
    exact ⟨f.own, mem_of_get? hw⟩
  unfold find? at h
  dsimp only at h
  split at h
  · exact own h
  · rcases Option.or_eq_some_iff.1 h with h | ⟨-, h⟩
    · obtain ⟨w, hw, heq⟩ := Option.map_eq_some_iff.1 h
      cases heq
      exact ⟨_, mem_of_get? hw⟩
    · exact own h

end FieldName

/-! ## What a check lets pass -/

/-- Whatever the check accepts has the property. -/
def Validated.Yields {α : Type} (x : Validated α) (P : α → Prop) : Prop := ∀ a, x = .accepted a → P a

namespace Validated.Yields

variable {α β : Type} {P : β → Prop} {Q : α → Prop}

theorem accepted {a : α} (h : Q a) : (Validated.accepted a).Yields Q := by
  rintro _ ⟨⟩
  exact h

theorem refused (ds : List Defect) : (Validated.refused ds : Validated α).Yields Q := nofun

theorem map {f : α → β} {x : Validated α} (h : x.Yields fun a => P (f a)) : (f <$> x).Yields P := by
  intro b hb
  cases x with
  | accepted a =>
    cases hb
    exact h a rfl
  | refused ds => cases hb

theorem seq {f : Validated (α → β)} {x : Validated α} (hf : f.Yields fun g => ∀ a, Q a → P (g a))
    (hx : x.Yields Q) : (f <*> x).Yields P := by
  intro b hb
  cases f with
  | accepted g =>
    cases x with
    | accepted a =>
      cases hb
      exact hf g rfl a (hx a rfl)
    | refused ds => cases hb
  | refused ds => cases x <;> cases hb

/-- The property does not depend on what the second check lets pass. -/
theorem seq_any {f : Validated (α → β)} {x : Validated α} (hf : f.Yields fun g => ∀ a, P (g a)) :
    (f <*> x).Yields P := seq (Q := fun _ => True) (fun g hg a _ => hf g hg a) fun _ _ => trivial

theorem under {x : Validated α} {part : PathPart} (h : x.Yields Q) : (x.under part).Yields Q := by
  intro a ha
  cases x with
  | accepted b => exact h a ha
  | refused ds => cases ha

theorem optional {read : Json → Validated α} {v : Json} (h : (read v).Yields Q) :
    (Validated.optional read v).Yields fun o => ∀ a ∈ o, Q a := by
  unfold Validated.optional
  split
  · exact accepted nofun
  · refine map fun a ha b hb => ?_
    cases hb
    exact h a ha

theorem items {read : Json → Validated α} {vs : List Json} (h : ∀ v ∈ vs, (read v).Yields Q) (index : Nat) :
    (Validated.items read index vs).Yields fun as => ∀ a ∈ as, Q a := by
  induction vs generalizing index with
  | nil => exact accepted nofun
  | cons v vs ih =>
    have hrest := ih (fun w hw => h w (List.mem_cons_of_mem _ hw)) (index + 1)
    refine seq (map fun a ha as has => ?_) hrest
    exact List.forall_mem_cons.2 ⟨under (h v List.mem_cons_self) a ha, has⟩

theorem list {read : Json → Validated α} {v : Json} (h : ∀ vs, v = .array vs → ∀ w ∈ vs, (read w).Yields Q) :
    (Validated.list read v).Yields fun as => ∀ a ∈ as, Q a := by
  unfold Validated.list
  split
  · exact items (h _ rfl) 0
  · exact refused _

theorem model {name : String} {fields : Members → Validated α} {v : Json}
    (h : ∀ ms, v = .object ms → (fields ms).Yields Q) : (Validated.model name fields v).Yields Q := by
  unfold Validated.model
  split
  · exact h _ rfl
  · exact refused _

theorem orElse {f : FieldName} {default : α} {read : Json → Validated α} {ms : Members} (hd : Q default)
    (h : ∀ m ∈ ms, (read m.2).Yields Q) : (f.orElse default read ms).Yields Q := by
  unfold FieldName.orElse
  split
  · exact accepted hd
  · rename_i name v hfind
    obtain ⟨n, hm⟩ := FieldName.mem_of_find? hfind
    exact under (h (n, v) hm)

end Validated.Yields

/-! ## What is followed when it is written -/

namespace Json

variable {depth : Nat}

theorem followed_string (s : String) : Followed depth (.string s) := ⟨rfl, rfl⟩

theorem followed_optionalString (s : Option String) : Followed depth (.optionalString s) := by
  cases s <;> exact ⟨rfl, rfl⟩

/-- The fields of a model have different names. -/
theorem followed_fields {ms : Members} (hnames : (ms.map (·.1)).Nodup) (h : ms.Forall fun m => Followed depth m.2) :
    Followed (depth + 1) (.object ms) := followed_object.2 ⟨hnames, List.forall_iff_forall_mem.1 h⟩

theorem followed_texts (ss : List String) : Followed (depth + 1) (.array (ss.map .string)) := by
  refine followed_array.2 fun v hv => ?_
  obtain ⟨s, -, rfl⟩ := List.mem_map.1 hv
  exact followed_string s

end Json

section

variable {depth : Nat}

theorem Layer.followed (l : Layer) : Followed (depth + 1) l.toJson :=
  Json.followed_fields (by simp) ⟨Json.followed_optionalString _, Json.followed_optionalString _⟩

theorem Scanner.followed (s : Scanner) : Followed (depth + 1) s.toJson :=
  Json.followed_fields (by simp) ⟨Json.followed_string _, Json.followed_string _, Json.followed_string _⟩

theorem Artifact.followed (a : Artifact) : Followed (depth + 1) a.toJson :=
  Json.followed_fields (by simp) ⟨Json.followed_string _, Json.followed_string _, Json.followed_optionalString _,
    Json.followed_optionalString _⟩

/-- Of an item only the free-form attributes can be too deep. -/
theorem VulnerabilityItem.followed {i : VulnerabilityItem} (h : Followed (depth + 1) (.object i.vendorAttributes)) :
    Followed (depth + 2) i.toJson := by
  have hlayer : Followed (depth + 1) ((i.layer.map Layer.toJson).getD .null) := by
    cases i.layer with
    | none => exact ⟨rfl, rfl⟩
    | some l => exact l.followed
  exact Json.followed_fields (by simp) ⟨Json.followed_string _, Json.followed_string _, Json.followed_string _,
    Json.followed_string _, Json.followed_string _, Json.followed_string _, Json.followed_texts _, hlayer,
    Json.followed_texts _, h⟩

theorem ScanReport.followed {r : ScanReport} (h : ∀ i ∈ r.vulnerabilities, Followed (depth + 2) i.toJson) :
    Followed (depth + 4) r.toJson := by
  have hitems : Followed (depth + 3) (.array (r.vulnerabilities.map VulnerabilityItem.toJson)) := by
    refine Json.followed_array.2 fun v hv => ?_
    obtain ⟨i, hi, rfl⟩ := List.mem_map.1 hv
    exact h i hi
  exact Json.followed_fields (by simp) ⟨Json.followed_string _, Scanner.followed _, Artifact.followed _,
    Json.followed_string _, hitems⟩

/-- Of an item only the free-form attributes may be more than a reader takes. -/
theorem VulnerabilityItem.isReadable_iff {i : VulnerabilityItem} :
    i.toJson.isReadable (depth + 2) = true ↔ (Json.object i.vendorAttributes).isReadable (depth + 1) = true := by
  refine ⟨isReadable_attributes, fun h => ?_⟩
  have hlayer : ((i.layer.map Layer.toJson).getD .null).isReadable (depth + 1) = true := by
    cases i.layer with
    | none => rfl
    | some l => exact l.followed.2
  refine Json.isReadable_object.2 (List.forall_iff_forall_mem.1 ?_)
  exact ⟨rfl, rfl, rfl, rfl, rfl, rfl, (Json.followed_texts _).2, hlayer, (Json.followed_texts _).2, h⟩

theorem ScanReport.isReadable_toJson_iff {r : ScanReport} : r.toJson.isReadable (depth + 4) = true ↔
    ∀ i ∈ r.vulnerabilities, (Json.object i.vendorAttributes).isReadable (depth + 1) = true := by
  have hitems : (Json.array (r.vulnerabilities.map VulnerabilityItem.toJson)).isReadable (depth + 3) = true ↔
      ∀ i ∈ r.vulnerabilities, (Json.object i.vendorAttributes).isReadable (depth + 1) = true := by
    rw [Json.isReadable_array, List.forall_mem_map]
    exact forall₂_congr fun i _ => VulnerabilityItem.isReadable_iff
  rw [← hitems]
  refine ⟨fun h => Json.isReadable_object.1 h ("vulnerabilities", _) (by simp), fun h => ?_⟩
  refine Json.isReadable_object.2 (List.forall_iff_forall_mem.1 ?_)
  exact ⟨rfl, (Scanner.followed _).2, (Artifact.followed _).2, rfl, h⟩

theorem ScanJob.isReadable_toJson_iff {j : ScanJob} :
    j.toJson.isReadable (depth + 1) = true ↔ ∀ report ∈ j.report, report.toJson.isReadable depth = true := by
  have hreport : ((j.report.map ScanReport.toJson).getD .null).isReadable depth = true ↔
      ∀ report ∈ j.report, report.toJson.isReadable depth = true := by
    cases j.report with
    | none => exact ⟨fun _ => nofun, fun _ => rfl⟩
    | some r => simp
  rw [← hreport]
  refine ⟨fun h => Json.isReadable_object.1 h ("report", (j.report.map ScanReport.toJson).getD .null) (by simp),
    fun h => ?_⟩
  refine Json.isReadable_object.2 (List.forall_iff_forall_mem.1 ?_)
  exact ⟨rfl, rfl, (Json.followed_optionalString _).2, h⟩

end

/-! ## Decoded jobs -/

open Validated

section

variable {depth : Nat} {v : Json}

theorem yields_freeForm (h : Followed depth v) : (freeForm v).Yields fun ms => Followed depth (.object ms) := by
  unfold freeForm
  split
  · exact .accepted h
  · exact .refused _

theorem yields_item (h : Followed (depth + 2) v) :
    (VulnerabilityItem.read v).Yields fun i => Followed (depth + 2) i.toJson := by
  refine .model fun ms hv => ?_
  subst hv
  have hattributes : ((FieldName.plain "vendor_attributes").orElse [] freeForm ms).Yields fun as =>
      Followed (depth + 1) (.object as) :=
    .orElse (Json.followed_object.2 (by simp)) fun m hm => yields_freeForm ((Json.followed_object.1 h).2 m hm)
  refine .seq (.seq_any <| .seq_any <| .seq_any <| .seq_any <| .seq_any <| .seq_any <| .seq_any <| .seq_any <|
    .map fun _ _ _ _ _ _ _ _ _ _ as has => ?_) hattributes
  exact VulnerabilityItem.followed has

theorem yields_report (origin : Origin) (h : Followed (depth + 4) v) :
    (ScanReport.read origin v).Yields fun r => Followed (depth + 4) r.toJson := by
  refine .model fun ms hv => ?_
  subst hv
  have hitems : ((FieldName.plain "vulnerabilities").orElse [] (Validated.list VulnerabilityItem.read) ms).Yields
      fun is => ∀ i ∈ is, Followed (depth + 2) i.toJson := by
    refine .orElse (by simp) fun m hm => .list fun vs hvs w hw => ?_
    have hm := (Json.followed_object.1 h).2 m hm
    rw [hvs] at hm
    exact yields_item (Json.followed_array.1 hm w hw)
  refine .seq (.seq_any <| .seq_any <| .seq_any <| .map fun _ _ _ _ _ is his => ?_) hitems
  exact ScanReport.followed his

theorem yields_job (origin : Origin) (h : Followed (depth + 5) v) :
    (ScanJob.read origin v).Yields fun j => ∀ r ∈ j.report, Followed (depth + 4) r.toJson := by
  refine .model fun ms hv => ?_
  subst hv
  have hreport : ((FieldName.plain "report").orElse none (optional (ScanReport.read origin)) ms).Yields
      fun o => ∀ r ∈ o, Followed (depth + 4) r.toJson :=
    .orElse nofun fun m hm => .optional (yields_report origin ((Json.followed_object.1 h).2 m hm))
  refine .seq (.seq_any <| .seq_any <| .map fun _ _ _ _ o ho => ?_) hreport
  exact ho

end

namespace ScanJob

variable {text : String} {j : ScanJob}

/-- The report of a job that was decoded is followed by a reader that has entered the job around it. -/
theorem followed_report_of_decode (h : decode text = .ok j) :
    ∀ r ∈ j.report, Followed (Json.readDepth - 1) r.toJson := by
  have haccepted : ofJsonText (read .text) text = .accepted j := by
    unfold decode Refusal.ofJsonText at h
    split at h
    · cases h
      assumption
    · split at h <;> cases h
  unfold ofJsonText at haccepted
  split at haccepted
  · rename_i v hparse
    exact @yields_job 195 v .text (Json.followed_parse hparse) j haccepted
  · cases haccepted

/-- **A job that was decoded can be encoded.** -/
theorem fault?_of_decode (h : decode text = .ok j) : j.report.bind ScanReport.fault? = none :=
  Option.bind_eq_none_iff.2 fun r hr => @ScanReport.fault?_eq_none r 196 (by decide) (followed_report_of_decode h r hr)

end ScanJob

end ScanAdapter
