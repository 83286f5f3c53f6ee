import Mathlib.Data.List.Nodup
import ScanAdapter.Proofs.Settings.Accepted

/-!
# The settings one by one

Each setting has an outcome of its own: its value, or the one defect for which it is refused. A reading of the settings
is made of these outcomes (`Settings.read_eq_ok_iff`, `Settings.read_eq_refused_iff`) unless the chosen lifetime is a
span of too many days, which leaves nothing else to be seen (`Settings.read_eq_tooManyDays_iff`).
-/
namespace ScanAdapter

/-! ## Spans of too many days -/

namespace Duration

theorem ofMicroseconds_eq_tooManyDays {n days : Int} (h : ofMicroseconds n = .error (.tooManyDays days))
    (hsize : n.natAbs < 1000000000 * 86400000000) : days = -1000000000 := by
  have hday : ((day : Nat) : Int) = 86400000000 := rfl
  unfold ofMicroseconds at h
  split at h
  · cases h
  · cases h
    rw [Int.fdiv_eq_ediv_of_nonneg n (by omega), hday]
    omega

/-- A span is told to have too many days only where it goes back less than a day too far. -/
theorem make_eq_tooManyDays {negative : Bool} {n : Nat} {days : Int}
    (h : make negative n = .error (.tooManyDays days)) : days = -1000000000 := by
  have hday : day = 86400000000 := rfl
  rw [make, hday] at h
  by_cases hsize : 1000000000 * 86400000000 ≤ n
  · rw [if_pos hsize] at h
    cases h
  · rw [if_neg hsize] at h
    refine ofMicroseconds_eq_tooManyDays h ?_
    cases negative <;> simp only [Bool.false_eq_true, if_true, if_false] <;> omega

theorem ofNumber_eq_tooManyDays {n : Number} {days : Int} (h : ofNumber n = .error (.tooManyDays days)) :
    days = -1000000000 := by
  unfold ofNumber ofInt at h
  split at h
  · split at h
    · exact make_eq_tooManyDays h
    · cases h
  · exact make_eq_tooManyDays h
  · cases h

theorem ofString_eq_tooManyDays {s : String} {days : Int} (h : ofString s = .error (.tooManyDays days)) :
    days = -1000000000 := by
  unfold ofString at h
  dsimp only at h
  split at h
  · exact make_eq_tooManyDays h
  · cases h

end Duration

/-! ## Values that are refused as a whole -/

namespace Validated

variable {α β : Type}

/-- A value is accepted, or refused as a whole for one of these causes. -/
def RefusesBy (P : Cause → Prop) (x : Validated α) : Prop :=
  ∀ ds, x = .refused ds → ∃ cause, P cause ∧ ds = [⟨[], cause⟩]

theorem RefusesBy.accepted (P : Cause → Prop) (a : α) : (Validated.accepted a).RefusesBy P := nofun

theorem RefusesBy.refuse {P : Cause → Prop} {cause : Cause} (h : P cause) :
    (Validated.refuse cause : Validated α).RefusesBy P := by
  rintro ds ⟨⟩
  exact ⟨cause, h, rfl⟩

theorem RefusesBy.map {P : Cause → Prop} {x : Validated α} (f : α → β) (h : x.RefusesBy P) : (x.map f).RefusesBy P := by
  intro ds hds
  cases x with
  | accepted a => cases hds
  | refused es =>
    cases hds
    exact h ds rfl

theorem RefusesBy.andThen {P : Cause → Prop} {x : Validated α} {f : α → Validated β} (h : x.RefusesBy P)
    (hf : ∀ a, (f a).RefusesBy P) : (x.andThen f).RefusesBy P := by
  intro ds hds
  cases x with
  | accepted a => exact hf a ds hds
  | refused es =>
    cases hds
    exact h ds rfl

theorem RefusesBy.optional {P : Cause → Prop} {read : Json → Validated α} (h : ∀ v, (read v).RefusesBy P) (v : Json) :
    (Validated.optional read v).RefusesBy P := by
  unfold Validated.optional
  split
  · exact .accepted P none
  · exact (h v).map some

theorem RefusesBy.mono {P Q : Cause → Prop} {x : Validated α} (h : x.RefusesBy P) (hPQ : ∀ cause, P cause → Q cause) :
    x.RefusesBy Q := by
  intro ds hds
  obtain ⟨cause, hcause, hone⟩ := h ds hds
  exact ⟨cause, hPQ cause hcause, hone⟩

end Validated

/-! ## Declared settings -/

/-- A setting: its name, its value where no source has it, its check, and its place among all settings. -/
structure Setting where
  name : String
  Value : Type
  default : Value
  read : Json → Validated Value
  get : Settings → Value

/-- What the sources make of a setting: its value, or what is wrong with it. -/
def Setting.outcome (x : Setting) (s : Sources) : Validated x.Value := s.setting x.name x.default x.read

def Setting.part (x : Setting) : Part Sources := ⟨x.Value, x.outcome⟩

/-- A span of too many days. -/
def Cause.IsSpan : Cause → Prop
  | tooManyDays _ => True
  | _ => False

namespace Settings

/-- How long a job lives. -/
def ttl : Setting := ⟨"SCAN_JOB_TTL", Duration, .oneHour, readTtl, scanJobTtl⟩

/-- How often an update is tried. -/
def retries : Setting := ⟨"STORE_MAX_UPDATE_RETRIES", Int, 5, readRetries, maxUpdateRetries⟩

/-- All settings in the order in which they are declared. -/
def declared : List Setting :=
  [⟨"REDIS_URL", String, "redis://localhost:6379/0", Validated.text, redisUrl⟩,
   ⟨"STORE_NAMESPACE", String, "harbor.scanner.trivy:store", Validated.text, storeNamespace⟩,
   ttl,
   ⟨"STORE_OPERATION_TIMEOUT", Option Binary64, none, Validated.optional readTimeout, operationTimeout⟩,
   retries,
   ⟨"ENGINE_NAME", String, "Trivy", Validated.text, engineName⟩,
   ⟨"ENGINE_VENDOR", String, "Aqua Security", Validated.text, engineVendor⟩,
   ⟨"ENGINE_VERSION", String, "Unknown", Validated.text, engineVersion⟩,
   ⟨"LOG_LEVEL", String, "INFO", Validated.text, logLevel⟩]

theorem ttl_mem : ttl ∈ declared := .tail _ (.tail _ (.head _))

theorem retries_mem : retries ∈ declared := .tail _ (.tail _ (.tail _ (.tail _ (.head _))))

theorem names_nodup : (declared.map Setting.name).Nodup := by decide

/-! ### Their checks -/

open Validated

theorem text_refusesBy (v : Json) : (text v).RefusesBy fun cause => ¬ cause.IsSpan := by
  unfold text
  split
  · exact .accepted _ _
  · exact .refuse nofun

theorem float_refusesBy (v : Json) : (Validated.float .value v).RefusesBy fun cause => ¬ cause.IsSpan := by
  unfold Validated.float
  split
  · exact .accepted _ _
  · dsimp only
    split
    · exact .accepted _ _
    · exact .refuse nofun
  · exact .accepted _ _
  · split
    · exact .accepted _ _
    · exact .refuse nofun
  · exact .refuse nofun

theorem integer_refusesBy (v : Json) : (integer v).RefusesBy fun cause => ¬ cause.IsSpan := by
  unfold integer
  split
  · exact .accepted _ _
  · split
    · split
      · split
        · exact .accepted _ _
        · exact .refuse nofun
      · exact .refuse nofun
    · exact .refuse nofun
  · exact .accepted _ _
  · split <;> first | exact .accepted _ _ | exact .refuse nofun
  · exact .refuse nofun

theorem duration_refusesBy (v : Json) :
    (duration v).RefusesBy fun cause => cause.IsSpan → cause = .tooManyDays (-1000000000) := by
  have hspan {r : Except DurationFault Duration} (h : ∀ days, r = .error (.tooManyDays days) → days = -1000000000) :
      (span r).RefusesBy fun cause => cause.IsSpan → cause = .tooManyDays (-1000000000) := by
    unfold span
    split
    · exact .accepted _ _
    · exact .refuse nofun
    · exact .refuse nofun
    · rename_i days
      exact .refuse fun _ => congrArg Cause.tooManyDays (h days rfl)
  unfold duration
  split
  · exact hspan fun days => Duration.ofNumber_eq_tooManyDays
  · exact .accepted _ _
  · exact hspan fun days => Duration.ofString_eq_tooManyDays
  · exact .refuse nofun

theorem readTimeout_refusesBy (v : Json) : (readTimeout v).RefusesBy fun cause => ¬ cause.IsSpan := by
  refine (float_refusesBy v).andThen fun x => ?_
  split
  · exact .accepted _ _
  · exact .refuse nofun

theorem readRetries_refusesBy (v : Json) : (readRetries v).RefusesBy fun cause => ¬ cause.IsSpan := by
  refine (integer_refusesBy v).andThen fun n => ?_
  split
  · exact .accepted _ _
  · exact .refuse nofun

theorem readTtl_refusesBy (v : Json) :
    (readTtl v).RefusesBy fun cause => cause.IsSpan → cause = .tooManyDays (-1000000000) := by
  refine (duration_refusesBy v).andThen fun d => ?_
  split
  · exact .refuse nofun
  · exact .accepted _ _

/-- A setting has one defect at most, and only the lifetime can be a span of too many days. -/
theorem read_refusesBy {x : Setting} (hx : x ∈ declared) (v : Json) :
    (x.read v).RefusesBy fun cause => cause.IsSpan → x = ttl ∧ cause = .tooManyDays (-1000000000) := by
  simp only [declared, List.mem_cons, List.not_mem_nil, or_false] at hx
  rcases hx with rfl | rfl | rfl | rfl | rfl | rfl | rfl | rfl | rfl
  case inr.inr.inl => exact (readTtl_refusesBy v).mono fun _ hdays hspan => ⟨rfl, hdays hspan⟩
  case inr.inr.inr.inl => exact (RefusesBy.optional readTimeout_refusesBy v).mono fun _ hnot hspan => absurd hspan hnot
  case inr.inr.inr.inr.inl => exact (readRetries_refusesBy v).mono fun _ hnot hspan => absurd hspan hnot
  all_goals exact (text_refusesBy v).mono fun _ hnot hspan => absurd hspan hnot

/-! ### Their outcomes -/

/-- The defect of a setting lies at the setting. -/
theorem outcome_refused {x : Setting} (hx : x ∈ declared) {s : Sources} {ds : List Defect}
    (h : x.outcome s = .refused ds) :
    ∃ cause, (cause.IsSpan → x = ttl ∧ cause = .tooManyDays (-1000000000)) ∧ ds = [⟨[.name x.name], cause⟩] := by
  unfold Setting.outcome Sources.setting at h
  split at h
  · cases h
  · rename_i v _
    cases hread : x.read v with
    | accepted a =>
      rw [hread] at h
      cases h
    | refused es =>
      obtain ⟨cause, hcause, rfl⟩ := read_refusesBy hx v es hread
      rw [hread] at h
      cases h
      exact ⟨cause, hcause, rfl⟩

theorem mem_outcome_defects {x : Setting} (hx : x ∈ declared) {s : Sources} {d : Defect}
    (hd : d ∈ (x.outcome s).defects) :
    d.path = [.name x.name] ∧ (d.cause.IsSpan → x = ttl ∧ d.cause = .tooManyDays (-1000000000)) ∧
      x.outcome s = .refused [d] := by
  cases h : x.outcome s with
  | accepted a =>
    rw [h] at hd
    cases hd
  | refused ds =>
    obtain ⟨cause, hcause, rfl⟩ := outcome_refused hx h
    rw [h] at hd
    obtain rfl : d = ⟨[.name x.name], cause⟩ := List.mem_singleton.1 hd
    exact ⟨rfl, hcause, rfl⟩

/-! ### What a reading is made of -/

theorem collects_ofSources : Collects ofSources (declared.map Setting.part) := ⟨Settings.mk, rfl⟩

theorem ofSources_eq_accepted_iff {s : Sources} {st : Settings} :
    ofSources s = .accepted st ↔ ∀ x ∈ declared, x.outcome s = .accepted (x.get st) := by
  simp only [declared, List.forall_mem_cons, List.not_mem_nil, IsEmpty.forall_iff, implies_true, and_true,
    Setting.outcome, ttl, retries]
  constructor
  · intro h
    obtain ⟨_, logLevel, h₈, hlogLevel, rfl⟩ := ap_eq_accepted_iff.1 h
    obtain ⟨_, version, h₇, hversion, rfl⟩ := ap_eq_accepted_iff.1 h₈
    obtain ⟨_, vendor, h₆, hvendor, rfl⟩ := ap_eq_accepted_iff.1 h₇
    obtain ⟨_, name, h₅, hname, rfl⟩ := ap_eq_accepted_iff.1 h₆
    obtain ⟨_, retries, h₄, hretries, rfl⟩ := ap_eq_accepted_iff.1 h₅
    obtain ⟨_, timeout, h₃, htimeout, rfl⟩ := ap_eq_accepted_iff.1 h₄
    obtain ⟨_, ttl, h₂, httl, rfl⟩ := ap_eq_accepted_iff.1 h₃
    obtain ⟨_, space, h₁, hspace, rfl⟩ := ap_eq_accepted_iff.1 h₂
    obtain ⟨url, hurl, rfl⟩ := map_eq_accepted_iff.1 h₁
    exact ⟨hurl, hspace, httl, htimeout, hretries, hname, hvendor, hversion, hlogLevel⟩
  · rintro ⟨hurl, hspace, httl, htimeout, hretries, hname, hvendor, hversion, hlogLevel⟩
    rw [ofSources, hurl, hspace, httl, htimeout, hretries, hname, hvendor, hversion, hlogLevel]
    rfl

theorem defects_ofSources (s : Sources) :
    (ofSources s).defects = declared.flatMap fun x => (x.outcome s).defects := by
  rw [collects_ofSources.defects, List.flatMap_map]
  rfl

theorem isRefused_ofSources (s : Sources) : (ofSources s).IsRefused ↔ ∃ x ∈ declared, (x.outcome s).IsRefused := by
  simp [collects_ofSources.isRefused_iff, Setting.part]

/-- What the sources make of each setting decides what they make of all. -/
theorem read_congr {s s' : Sources} (h : ∀ x ∈ declared, x.outcome s = x.outcome s') : read s = read s' := by
  have hsame : ofSources s = ofSources s' := collects_ofSources.congr .eq (by simpa [Setting.part] using h)
  rw [read, read, hsame]

end Settings

/-! ## Readings -/

/-- The days of a span of too many. -/
def Defect.days? (d : Defect) : Option Int :=
  match d.cause with
  | .tooManyDays days => some days
  | _ => none

theorem Defect.days?_eq_some {d : Defect} {days : Int} : d.days? = some days ↔ d.cause = .tooManyDays days := by
  unfold days?
  split
  · rename_i n hn
    simp [hn]
  · rename_i hother
    constructor
    · nofun
    · exact fun h => absurd h (hother days)

theorem Defect.days?_eq_none {d : Defect} : d.days? = none ↔ ¬ d.cause.IsSpan := by
  unfold days? Cause.IsSpan
  cases d.cause <;> simp

namespace SettingsFault

theorem ofDefects_eq (ds : List Defect) :
    ofDefects ds = ((ds.findSome? Defect.days?).map tooManyDays).getD (refused ds) := by
  unfold ofDefects
  dsimp only
  split
  · rename_i days h
    have hsome : ds.findSome? Defect.days? = some days := h
    rw [hsome]
    rfl
  · rename_i h
    have hnone : ds.findSome? Defect.days? = none := h
    rw [hnone]
    rfl

theorem ofDefects_eq_refused_iff {ds es : List Defect} :
    ofDefects ds = .refused es ↔ es = ds ∧ ∀ d ∈ ds, ¬ d.cause.IsSpan := by
  have hnone : ds.findSome? Defect.days? = none ↔ ∀ d ∈ ds, ¬ d.cause.IsSpan := by
    simp only [List.findSome?_eq_none_iff, Defect.days?_eq_none]
  rw [ofDefects_eq, ← hnone]
  cases ds.findSome? Defect.days? with
  | none => simp [eq_comm]
  | some days => simp

/-- Where there is one such span at most, it is the one that is told. -/
theorem ofDefects_eq_tooManyDays_iff {ds : List Defect} {days : Int}
    (hone : ∀ d ∈ ds, ∀ e ∈ ds, d.cause.IsSpan → e.cause.IsSpan → d = e) :
    ofDefects ds = .tooManyDays days ↔ ∃ d ∈ ds, d.cause = .tooManyDays days := by
  have hspan {d : Defect} {n : Int} (h : d.cause = .tooManyDays n) : d.cause.IsSpan := h ▸ trivial
  rw [ofDefects_eq]
  cases hfind : ds.findSome? Defect.days? with
  | none =>
    have hnot := List.findSome?_eq_none_iff.1 hfind
    constructor
    · nofun
    · rintro ⟨d, hd, hdays⟩
      exact absurd (hspan hdays) (Defect.days?_eq_none.1 (hnot d hd))
  | some n =>
    obtain ⟨d, hd, hn⟩ := List.exists_of_findSome?_eq_some hfind
    rw [Defect.days?_eq_some] at hn
    simp only [Option.map_some, Option.getD_some, tooManyDays.injEq]
    constructor
    · rintro rfl
      exact ⟨d, hd, hn⟩
    · rintro ⟨e, he, hdays⟩
      have hde : d = e := hone d hd e he (hspan hn) (hspan hdays)
      rw [hde, hdays] at hn
      exact (Cause.tooManyDays.inj hn).symm

end SettingsFault

namespace Settings

/-- The lifetime is a span that goes back too far by less than a day. One that goes back further, or that goes forward,
is refused like any other value. -/
def Stops (s : Sources) : Prop :=
  ttl.outcome s = .refused [⟨[.name ttl.name], .tooManyDays (-1000000000)⟩]

theorem mem_defects_iff {s : Sources} {d : Defect} :
    d ∈ (ofSources s).defects ↔ ∃ x ∈ declared, d ∈ (x.outcome s).defects := by
  rw [defects_ofSources, List.mem_flatMap]

/-- The only span of too many days that is ever found. -/
theorem eq_of_isSpan {s : Sources} {d : Defect} (hd : d ∈ (ofSources s).defects) (hspan : d.cause.IsSpan) :
    Stops s ∧ d = ⟨[.name ttl.name], .tooManyDays (-1000000000)⟩ := by
  obtain ⟨x, hx, hdx⟩ := mem_defects_iff.1 hd
  obtain ⟨path, cause⟩ := d
  obtain ⟨rfl, httl, hrefused⟩ := mem_outcome_defects hx hdx
  obtain ⟨rfl, rfl⟩ := httl hspan
  exact ⟨hrefused, rfl⟩

theorem exists_span_iff {s : Sources} {days : Int} :
    (∃ d ∈ (ofSources s).defects, d.cause = .tooManyDays days) ↔ Stops s ∧ days = -1000000000 := by
  constructor
  · rintro ⟨d, hd, hdays⟩
    obtain ⟨hstops, rfl⟩ := eq_of_isSpan hd (hdays ▸ trivial)
    cases hdays
    exact ⟨hstops, rfl⟩
  · rintro ⟨hstops, rfl⟩
    refine ⟨⟨[.name ttl.name], .tooManyDays (-1000000000)⟩, mem_defects_iff.2 ⟨ttl, ttl_mem, ?_⟩, rfl⟩
    rw [hstops]
    exact List.mem_singleton_self _

theorem not_stops_iff {s : Sources} : ¬ Stops s ↔ ∀ d ∈ (ofSources s).defects, ¬ d.cause.IsSpan := by
  constructor
  · exact fun hnot d hd hspan => hnot (eq_of_isSpan hd hspan).1
  · intro hnot hstops
    obtain ⟨d, hd, hdays⟩ := exists_span_iff.2 ⟨hstops, rfl⟩
    exact hnot d hd (hdays ▸ trivial)

theorem read_eq_ok_iff {s : Sources} {st : Settings} :
    read s = .ok st ↔ ∀ x ∈ declared, x.outcome s = .accepted (x.get st) := by
  rw [← ofSources_eq_accepted_iff, read]
  cases ofSources s <;> simp [Validated.toExcept, Except.mapError]

theorem read_eq_tooManyDays_iff {s : Sources} {days : Int} :
    read s = .error (.tooManyDays days) ↔ Stops s ∧ days = -1000000000 := by
  have hone : ∀ d ∈ (ofSources s).defects, ∀ e ∈ (ofSources s).defects, d.cause.IsSpan → e.cause.IsSpan → d = e :=
    fun d hd e he hspan hspan' => (eq_of_isSpan hd hspan).2.trans (eq_of_isSpan he hspan').2.symm
  rw [← exists_span_iff, read]
  cases h : ofSources s with
  | accepted st => simp [Validated.toExcept, Except.mapError, Validated.defects]
  | refused ds =>
    rw [h] at hone
    simpa [Validated.toExcept, Except.mapError, Validated.defects] using
      SettingsFault.ofDefects_eq_tooManyDays_iff hone

theorem read_eq_refused_iff {s : Sources} {ds : List Defect} :
    read s = .error (.refused ds) ↔
      ¬ Stops s ∧ (∃ x ∈ declared, (x.outcome s).IsRefused) ∧
        ds = declared.flatMap fun x => (x.outcome s).defects := by
  rw [not_stops_iff, ← defects_ofSources, ← isRefused_ofSources, ← Validated.eq_refused_iff, read]
  cases h : ofSources s with
  | accepted st => simp [Validated.toExcept, Except.mapError]
  | refused es =>
    simp only [Validated.toExcept, Except.mapError, Except.error.injEq, SettingsFault.ofDefects_eq_refused_iff,
      Validated.defects, Validated.refused.injEq]
    constructor
    · rintro ⟨rfl, hnot⟩
      exact ⟨hnot, rfl⟩
    · rintro ⟨hnot, rfl⟩
      exact ⟨rfl, hnot⟩

/-! ### What a reading tells of a setting -/

/-- What a reading finds wrong with a setting. -/
def complaints (x : Setting) : Except SettingsFault Settings → List Defect
  | .error (.refused ds) => ds.filter fun d => d.path.head? == some (.name x.name)
  | _ => []

theorem filter_outcome {x y : Setting} (hx : x ∈ declared) (hy : y ∈ declared) (s : Sources) :
    ((y.outcome s).defects.filter fun d => d.path.head? == some (.name x.name)) =
      if y.name = x.name then (x.outcome s).defects else [] := by
  split
  · rename_i hname
    obtain rfl : y = x := List.inj_on_of_nodup_map names_nodup hy hx hname
    refine List.filter_eq_self.2 fun d hd => ?_
    simp [(mem_outcome_defects hy hd).1]
  · rename_i hname
    refine List.filter_eq_nil_iff.2 fun d hd => ?_
    simp [(mem_outcome_defects hy hd).1, hname]

theorem flatMap_of_nodup {α : Type} {x : Setting} {xs : List Setting} (hx : x ∈ xs)
    (hnodup : (xs.map Setting.name).Nodup) (as : List α) :
    (xs.flatMap fun y => if y.name = x.name then as else []) = as := by
  induction xs with
  | nil => cases hx
  | cons z xs ih =>
    rw [List.map_cons, List.nodup_cons] at hnodup
    obtain ⟨hz, hnodup⟩ := hnodup
    rw [List.flatMap_cons]
    rcases List.mem_cons.1 hx with rfl | hx
    · have hothers : (xs.flatMap fun y => if y.name = x.name then as else []) = [] := by
        refine List.flatMap_eq_nil_iff.2 fun y hy => if_neg fun hname => hz ?_
        exact hname ▸ List.mem_map_of_mem hy
      rw [if_pos rfl, hothers, List.append_nil]
    · have hname : z.name ≠ x.name := fun hname => hz (hname ▸ List.mem_map_of_mem hx)
      rw [if_neg hname, List.nil_append, ih hx hnodup]

/-- Unless the reading stops at the lifetime, it tells of each setting what is wrong with it. -/
theorem complaints_read {x : Setting} (hx : x ∈ declared) {s : Sources} (h : ¬ Stops s) :
    complaints x (read s) = (x.outcome s).defects := by
  cases hread : read s with
  | ok st =>
    rw [read_eq_ok_iff.1 hread x hx]
    rfl
  | error fault =>
    cases fault with
    | tooManyDays days => exact absurd (read_eq_tooManyDays_iff.1 hread).1 h
    | refused ds =>
      obtain ⟨-, -, rfl⟩ := read_eq_refused_iff.1 hread
      have hfilter : ∀ y ∈ declared, ((y.outcome s).defects.filter fun d => d.path.head? == some (.name x.name)) =
          if y.name = x.name then (x.outcome s).defects else [] := fun y hy => filter_outcome hx hy s
      calc complaints x (.error (.refused (declared.flatMap fun y => (y.outcome s).defects)))
          = declared.flatMap fun y => (y.outcome s).defects.filter fun d => d.path.head? == some (.name x.name) :=
            List.filter_flatMap
        _ = declared.flatMap fun y => if y.name = x.name then (x.outcome s).defects else [] :=
            List.flatMap_congr hfilter
        _ = (x.outcome s).defects := flatMap_of_nodup hx names_nodup _

end Settings

end ScanAdapter
