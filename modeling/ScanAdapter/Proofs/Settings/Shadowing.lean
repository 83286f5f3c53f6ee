import Mathlib.Logic.Relation
import ScanAdapter.Proofs.Settings.Declared

/-!
# Where settings come from

Three places are asked for a setting, and the first that has it decides (`Sources.find?_eq_some_iff`). So an entry that
a place before it covers is never seen, and neither is one that names no setting; and the entries of one setting do
nothing to another (`Settings.sources_shadow`). A lifetime that is a span of too many days is the exception: it hides
what is wrong with all other settings (`Settings.sources_shadow_overflow`).
-/
namespace ScanAdapter

/-! ## Files without references -/

namespace EnvFile

/-- No value that is assigned in the text refers to another. -/
def Plain (text : String) : Prop :=
  let cs := unifyLineEnds (dropMark text.toList)
  ∀ a ∈ readAll (cs.length + 1) cs, ∀ v ∈ a.2, ¬ ['$', '\x7b'] <:+: v.toList

theorem resolve_of_plain (look : String → Option String) (fuel : Nat) {cs : List Char} (h : ¬ ['$', '\x7b'] <:+: cs) :
    resolve look fuel cs = cs := by
  induction fuel generalizing cs with
  | zero => rfl
  | succ fuel ih =>
    unfold resolve
    split
    · rfl
    · exact absurd (List.prefix_append ['$', '\x7b'] _).isInfix h
    · rename_i c rest _
      rw [ih fun hrest => h (List.infix_cons hrest)]

theorem resolveAll_of_plain (environment : List (String × String)) {as : List Assignment}
    (h : ∀ a ∈ as, ∀ v ∈ a.2, ¬ ['$', '\x7b'] <:+: v.toList) (done : List Assignment) :
    resolveAll environment done as = done.reverse ++ as := by
  induction as generalizing done with
  | nil => simp [resolveAll]
  | cons a as ih =>
    obtain ⟨name, value⟩ := a
    obtain ⟨hvalue, has⟩ := List.forall_mem_cons.1 h
    have hresolved : (value.map fun v =>
        String.ofList (resolve (lookUp environment done) (v.length + 1) v.toList)) = value := by
      cases value with
      | none => rfl
      | some v => simp [resolve_of_plain _ _ (hvalue v rfl)]
    rw [resolveAll, hresolved, ih has]
    simp

/-- A file whose values do not refer to others assigns the same in every environment. -/
theorem assignments_of_plain {text : String} (h : Plain text) (environment environment' : List (String × String)) :
    assignments environment text = assignments environment' text := by
  rw [assignments, assignments, resolveAll_of_plain environment h [], resolveAll_of_plain environment' h []]

end EnvFile

/-! ## Places -/

/-- Where a setting is looked for. -/
inductive Place
  | arguments
  | environment
  | file
  deriving DecidableEq, Repr

namespace Place

/-- How many places are asked before this one. -/
def rank : Place → Nat
  | arguments => 0
  | environment => 1
  | file => 2

/-- What stands before the names of settings. -/
def lead : Place → String
  | arguments => ""
  | environment => Sources.envPrefix
  | file => Sources.envPrefix

/-- An entry of this name is for the setting, whatever the case of its letters. -/
def Names (p : Place) (entry setting : String) : Prop := Sources.folded entry = Sources.folded (p.lead ++ setting)

instance (p : Place) (entry setting : String) : Decidable (p.Names entry setting) :=
  inferInstanceAs (Decidable (_ = _))

end Place

namespace Sources

/-! ## Entries -/

/-- The entries of a place. In a file a name can stand without a value. -/
def entries (s : Sources) : Place → Entries (Option Json)
  | .arguments => s.arguments.map fun e => (e.1, some e.2)
  | .environment => s.environment.map fun e => (e.1, some (.string e.2))
  | .file => s.file.map fun e => (e.1, e.2.map .string)

/-- No two names of a place differ in the case of their letters only. -/
def NamesDiffer (s : Sources) : Prop := ∀ p, ((s.entries p).map fun e => folded e.1).Nodup

/-- The place gives the setting this value. -/
def Holds (s : Sources) (name : String) (p : Place) (v : Json) : Prop := ∃ n, (n, some v) ∈ s.entries p ∧ p.Names n name

/-- The first place that has the setting gives it this value. -/
structure Decides (s : Sources) (name : String) (p : Place) (v : Json) : Prop where
  holds : s.Holds name p v
  first : ∀ q w, q.rank < p.rank → ¬ s.Holds name q w

/-- What a place has for a setting. -/
def at? (s : Sources) (name : String) : Place → Option Json
  | .arguments => s.argument? name
  | .environment => (lastNamed? (envPrefix ++ name) s.environment).map .string
  | .file => (lastNamed? (envPrefix ++ name) s.file).bind fun v => v.map .string

theorem find?_eq_or (s : Sources) (name : String) :
    s.find? name = (s.at? name .arguments).or ((s.at? name .environment).or (s.at? name .file)) := rfl

/-! ### The entry of a name -/

section Named

variable {α : Type} {pairs : List (String × α)} {name : String} {v : α}

theorem find_folded_iff (h : (pairs.map fun e => folded e.1).Nodup) :
    (pairs.find? fun p => folded p.1 == folded name).map (·.2) = some v ↔
      ∃ n, (n, v) ∈ pairs ∧ folded n = folded name := by
  constructor
  · intro hfind
    obtain ⟨⟨n, w⟩, hfound, rfl⟩ := Option.map_eq_some_iff.1 hfind
    exact ⟨n, List.mem_of_find?_eq_some hfound, by simpa using List.find?_some hfound⟩
  · rintro ⟨n, hmem, hname⟩
    cases hfind : pairs.find? fun p => folded p.1 == folded name with
    | none =>
      have hnot := List.find?_eq_none.1 hfind (n, v) hmem
      exact absurd hname (by simpa using hnot)
    | some found =>
      have hfound : folded found.1 = folded name := by simpa using List.find?_some hfind
      have hsame : found = (n, v) :=
        List.inj_on_of_nodup_map h (List.mem_of_find?_eq_some hfind) hmem (hfound.trans hname.symm)
      rw [hsame]
      rfl

theorem lastNamed?_eq_some_iff (h : (pairs.map fun e => folded e.1).Nodup) :
    lastNamed? name pairs = some v ↔ ∃ n, (n, v) ∈ pairs ∧ folded n = folded name := by
  have hreverse : (pairs.reverse.map fun e => folded e.1).Nodup := by
    rw [List.map_reverse]
    exact List.nodup_reverse.2 h
  rw [lastNamed?, find_folded_iff hreverse]
  simp only [List.mem_reverse]

end Named

theorem argument?_eq_some_iff {s : Sources} {name : String} {v : Json}
    (h : (s.arguments.map fun e => folded e.1).Nodup) :
    s.argument? name = some v ↔ ∃ n, (n, v) ∈ s.arguments ∧ folded n = folded name := by
  rw [argument?]
  cases hlookup : s.arguments.lookup name with
  | none => rw [Option.none_or, find_folded_iff h]
  | some w =>
    have hmem : (name, w) ∈ s.arguments := FieldName.mem_of_get? hlookup
    rw [Option.some_or, Option.some.injEq]
    constructor
    · rintro rfl
      exact ⟨name, hmem, rfl⟩
    · rintro ⟨n, hn, hname⟩
      have hsame : (name, w) = (n, v) := List.inj_on_of_nodup_map h hmem hn hname.symm
      exact (Prod.mk.inj hsame).2

theorem at?_eq_some_iff {s : Sources} (h : s.NamesDiffer) {name : String} {p : Place} {v : Json} :
    s.at? name p = some v ↔ s.Holds name p v := by
  have hnodup := h p
  unfold at? Holds Place.Names
  cases p with
  | arguments =>
    simp only [entries, List.map_map, Function.comp_def] at hnodup
    rw [argument?_eq_some_iff hnodup]
    simp [entries, Place.lead]
  | environment =>
    simp only [entries, List.map_map, Function.comp_def] at hnodup
    simp only [Option.map_eq_some_iff, lastNamed?_eq_some_iff hnodup, entries, Place.lead, List.mem_map, Prod.exists,
      Prod.mk.injEq, Option.some.injEq]
    constructor
    · rintro ⟨text, ⟨n, hmem, hname⟩, hv⟩
      exact ⟨n, ⟨n, text, hmem, rfl, hv⟩, hname⟩
    · rintro ⟨n, ⟨n', text, hmem, rfl, hv⟩, hname⟩
      exact ⟨text, ⟨n', hmem, hname⟩, hv⟩
  | file =>
    simp only [entries, List.map_map, Function.comp_def] at hnodup
    simp only [Option.bind_eq_some_iff, lastNamed?_eq_some_iff hnodup, entries, Place.lead, List.mem_map, Prod.exists,
      Prod.mk.injEq]
    constructor
    · rintro ⟨text, ⟨n, hmem, hname⟩, hv⟩
      exact ⟨n, ⟨n, text, hmem, rfl, hv⟩, hname⟩
    · rintro ⟨n, ⟨n', text, hmem, rfl, hv⟩, hname⟩
      exact ⟨text, ⟨n', hmem, hname⟩, hv⟩

theorem at?_eq_none_iff {s : Sources} (h : s.NamesDiffer) {name : String} {p : Place} :
    s.at? name p = none ↔ ∀ v, ¬ s.Holds name p v := by
  rw [Option.eq_none_iff_forall_ne_some]
  exact forall_congr' fun v => not_congr (at?_eq_some_iff h)

/-- The first place that has a setting decides. -/
theorem find?_eq_some_iff {s : Sources} (h : s.NamesDiffer) {name : String} {v : Json} :
    s.find? name = some v ↔ ∃ p, s.Decides name p v := by
  simp only [find?_eq_or, Option.or_eq_some_iff, at?_eq_some_iff h, at?_eq_none_iff h]
  constructor
  · rintro (hargument | ⟨hargument, henvironment | ⟨henvironment, hfile⟩⟩)
    · exact ⟨.arguments, hargument, fun q w hq => absurd hq (Nat.not_lt_zero _)⟩
    · refine ⟨.environment, henvironment, fun q w hq => ?_⟩
      cases q with
      | arguments => exact hargument w
      | environment | file => simp [Place.rank] at hq
    · refine ⟨.file, hfile, fun q w hq => ?_⟩
      cases q with
      | arguments => exact hargument w
      | environment => exact henvironment w
      | file => simp [Place.rank] at hq
  · rintro ⟨p, hholds, hfirst⟩
    cases p with
    | arguments => exact .inl hholds
    | environment => exact .inr ⟨fun w => hfirst .arguments w (by decide), .inl hholds⟩
    | file =>
      refine .inr ⟨fun w => hfirst .arguments w (by decide), .inr ⟨fun w => ?_, hholds⟩⟩
      exact hfirst .environment w (by decide)

theorem find?_eq_none_iff {s : Sources} (h : s.NamesDiffer) {name : String} :
    s.find? name = none ↔ ∀ p v, ¬ s.Holds name p v := by
  simp only [find?_eq_or, Option.or_eq_none_iff, at?_eq_none_iff h]
  constructor
  · rintro ⟨hargument, henvironment, hfile⟩ p
    cases p with
    | arguments => exact hargument
    | environment => exact henvironment
    | file => exact hfile
  · exact fun hnone => ⟨hnone .arguments, hnone .environment, hnone .file⟩

/-! ## One entry more or less -/

/-- The other sources have one entry more: this one, somewhere in this place. -/
structure Adds (s : Sources) (p : Place) (entry : String) (v : Option Json) (s' : Sources) : Prop where
  there : ∃ before after, s.entries p = before ++ after ∧ s'.entries p = before ++ (entry, v) :: after
  elsewhere : ∀ q, q ≠ p → s'.entries q = s.entries q

section Adds

variable {s s' : Sources} {p : Place} {entry : String} {v : Option Json}

theorem Adds.namesDiffer (h : s.Adds p entry v s') (hs' : s'.NamesDiffer) : s.NamesDiffer := by
  intro q
  by_cases hq : q = p
  · subst hq
    obtain ⟨before, after, hbefore, hafter⟩ := h.there
    have hsublist : (s.entries q).Sublist (s'.entries q) := by
      rw [hbefore, hafter]
      exact (List.Sublist.refl before).append (List.sublist_cons_self _ after)
    exact (hs' q).sublist (hsublist.map _)
  · exact h.elsewhere q hq ▸ hs' q

theorem Adds.holds_iff (h : s.Adds p entry v s') {name : String} {q : Place} {w : Json} :
    s'.Holds name q w ↔ s.Holds name q w ∨ q = p ∧ v = some w ∧ p.Names entry name := by
  unfold Holds
  by_cases hq : q = p
  · subst hq
    obtain ⟨before, after, hbefore, hafter⟩ := h.there
    simp only [hbefore, hafter, List.mem_append, List.mem_cons, Prod.mk.injEq]
    grind
  · rw [h.elsewhere q hq]
    simp [hq]

/-- What comes after the place that decides does not count. -/
theorem decides_congr {name : String} {w : Json} {r : Place}
    (h : ∀ q u, q.rank ≤ r.rank → (s.Holds name q u ↔ s'.Holds name q u)) :
    s.Decides name r w ↔ s'.Decides name r w := by
  constructor
  · rintro ⟨hholds, hfirst⟩
    exact ⟨(h r w le_rfl).1 hholds, fun q u hq => (h q u hq.le).not.1 (hfirst q u hq)⟩
  · rintro ⟨hholds, hfirst⟩
    exact ⟨(h r w le_rfl).2 hholds, fun q u hq => (h q u hq.le).not.2 (hfirst q u hq)⟩

/-- An entry that is not for a setting, or that a place before it covers, does nothing to the setting. -/
theorem Adds.find?_eq (h : s.Adds p entry v s') (hs' : s'.NamesDiffer) {name : String}
    (hunseen : p.Names entry name → ∃ q w, q.rank < p.rank ∧ s.Holds name q w) : s.find? name = s'.find? name := by
  have hsame (q : Place) (w : Json) (hq : p.Names entry name → q.rank < p.rank) :
      s'.Holds name q w ↔ s.Holds name q w := by
    rw [h.holds_iff, or_iff_left]
    rintro ⟨rfl, -, hnames⟩
    exact Nat.lt_irrefl _ (hq hnames)
  refine Option.ext fun w => ?_
  rw [find?_eq_some_iff (h.namesDiffer hs'), find?_eq_some_iff hs']
  refine exists_congr fun r => ?_
  by_cases hr : p.Names entry name → r.rank < p.rank
  · exact decides_congr fun q u hq => (hsame q u fun hnames => hq.trans_lt (hr hnames)).symm
  · -- neither the place of the entry nor one behind it decides, before or after
    obtain ⟨hnames, hr⟩ := Classical.not_imp.1 hr
    obtain ⟨q, u, hq, hholds⟩ := hunseen hnames
    have hbefore : q.rank < r.rank := hq.trans_le (Nat.not_lt.1 hr)
    have hholds' : s'.Holds name q u := (hsame q u fun _ => hq).2 hholds
    exact iff_of_false (fun hd => hd.first q u hbefore hholds) fun hd => hd.first q u hbefore hholds'

end Adds

/-- The other sources have one entry more, which is idle: a place before it has every setting that it is for. -/
def AddsIdle (s s' : Sources) : Prop :=
  s'.NamesDiffer ∧ ∃ p entry v, s.Adds p entry v s' ∧
    ∀ x ∈ Settings.declared, p.Names entry x.name → ∃ q w, q.rank < p.rank ∧ s.Holds x.name q w

/-- The other sources have one entry more, for this setting. -/
def Concerns (x : Setting) (s s' : Sources) : Prop :=
  s'.NamesDiffer ∧ ∃ p entry v, s.Adds p entry v s' ∧ p.Names entry x.name

/-- This place alone has the setting, and gives it this value. -/
def HoldsOnly (s : Sources) (name : String) (p : Place) (v : Json) : Prop :=
  s.Holds name p v ∧ ∀ q w, s.Holds name q w → q = p

/-- Where no other place has an entry for the setting, no other place holds it. -/
theorem eq_of_holds {s : Sources} {name : String} {p q : Place} {v : Json}
    (hothers : ∀ r ∈ [Place.arguments, .environment, .file], r ≠ p → ∀ e ∈ s.entries r, ¬ r.Names e.1 name)
    (h : s.Holds name q v) : q = p := by
  obtain ⟨n, hmem, hnames⟩ := h
  by_contra hq
  exact hothers q (by cases q <;> decide) hq _ hmem hnames

end Sources

namespace Settings

open Sources Relation

/-! ## Outcomes -/

variable {s s' : Sources}

/-- An entry is for one setting at most. -/
theorem eq_of_names {x y : Setting} (hx : x ∈ declared) (hy : y ∈ declared) {p : Place} {entry : String}
    (hentry : p.Names entry x.name) (hentry' : p.Names entry y.name) : x = y := by
  have hfolded : folded x.name = folded y.name := by
    have hboth := hentry.symm.trans hentry'
    simpa only [folded, String.toList_append, List.map_append, List.append_cancel_left_eq] using hboth
  have hnodup : (declared.map fun x => folded x.name).Nodup := by decide
  exact List.inj_on_of_nodup_map hnodup hx hy hfolded

theorem outcome_congr {x : Setting} (h : s.find? x.name = s'.find? x.name) : x.outcome s = x.outcome s' := by
  unfold Setting.outcome Sources.setting
  rw [h]

theorem outcome_of_decides (hs : s.NamesDiffer) {x : Setting} {p : Place} {v : Json} (h : s.Decides x.name p v) :
    x.outcome s = (x.read v).under (.name x.name) := by
  unfold Setting.outcome Sources.setting
  rw [(find?_eq_some_iff hs).2 ⟨p, h⟩]

theorem outcome_of_nowhere (hs : s.NamesDiffer) {x : Setting} (h : ∀ p v, ¬ s.Holds x.name p v) :
    x.outcome s = .accepted x.default := by
  unfold Setting.outcome Sources.setting
  rw [(find?_eq_none_iff hs).2 h]

theorem outcome_of_addsIdle (h : s.AddsIdle s') {x : Setting} (hx : x ∈ declared) : x.outcome s = x.outcome s' := by
  obtain ⟨hs', p, entry, v, hadds, hunseen⟩ := h
  exact outcome_congr (hadds.find?_eq hs' (hunseen x hx))

theorem outcome_of_concerns {x y : Setting} (hx : x ∈ declared) (hy : y ∈ declared) (hxy : y ≠ x)
    (h : s.Concerns x s') : y.outcome s = y.outcome s' := by
  obtain ⟨hs', p, entry, v, hadds, hentry⟩ := h
  exact outcome_congr (hadds.find?_eq hs' fun hentry' => absurd (eq_of_names hy hx hentry' hentry) hxy)

/-- What no step changes is the same after any number of them, there and back. -/
theorem outcome_of_eqvGen {R : Sources → Sources → Prop} {x : Setting}
    (hstep : ∀ a b, R a b → x.outcome a = x.outcome b) (h : EqvGen R s s') : x.outcome s = x.outcome s' :=
  (eq_equivalence.comap x.outcome).eqvGen_iff.1 (h.mono hstep)

theorem outcome_of_holdsOnly (hs : s.NamesDiffer) {x : Setting} {p : Place} {v : Json} (h : s.HoldsOnly x.name p v) :
    x.outcome s = (x.read v).under (.name x.name) := by
  refine outcome_of_decides hs ⟨h.1, fun q w hq hholds => ?_⟩
  obtain rfl := h.2 q w hholds
  exact Nat.lt_irrefl _ hq

theorem complaints_read_iff : (∀ x ∈ declared, complaints x (read s) = (x.outcome s).defects) ↔ ¬ Stops s := by
  constructor
  · intro hall hstops
    have httl := hall ttl ttl_mem
    rw [read_eq_tooManyDays_iff.2 ⟨hstops, rfl⟩, hstops] at httl
    cases httl
  · exact fun hnot x hx => complaints_read hx hnot

/-- **Sources shadow one another setting by setting. The first place that has a setting decides its outcome; what it
shadows, and what has no setting's name, is never seen; the entries of one setting do nothing to another; and the file
and the environment are read alike. A reading is made of these outcomes, and shows what is wrong with each setting
exactly when it does not stop at the lifetime.** -/
theorem sources_shadow (s : Sources) (hs : s.NamesDiffer) :
    (∀ st, read s = .ok st ↔ ∀ x ∈ declared, x.outcome s = .accepted (x.get st)) ∧
    (∀ ds, read s = .error (.refused ds) ↔
      ¬ Stops s ∧ (∃ x ∈ declared, (x.outcome s).IsRefused) ∧
        ds = declared.flatMap fun x => (x.outcome s).defects) ∧
    ((∀ x ∈ declared, complaints x (read s) = (x.outcome s).defects) ↔ ¬ Stops s) ∧
    (∀ days, read s = .error (.tooManyDays days) ↔ Stops s ∧ days = -1000000000) ∧
    (∀ x ∈ declared, ∀ p v, s.Decides x.name p v → x.outcome s = (x.read v).under (.name x.name)) ∧
    (∀ x ∈ declared, (∀ p v, ¬ s.Holds x.name p v) → x.outcome s = .accepted x.default) ∧
    (∀ s', EqvGen AddsIdle s s' → (∀ x ∈ declared, x.outcome s = x.outcome s') ∧ read s = read s') ∧
    (∀ x ∈ declared, ∀ s', EqvGen (Concerns x) s s' → ∀ y ∈ declared, y ≠ x → y.outcome s = y.outcome s' ∧
      (∀ st st', read s = .ok st → read s' = .ok st' → y.get st = y.get st') ∧
      (¬ Stops s → ¬ Stops s' → complaints y (read s) = complaints y (read s'))) ∧
    (∀ x ∈ declared, ∀ s' text, s'.NamesDiffer → s.HoldsOnly x.name .file (.string text) →
      s'.HoldsOnly x.name .environment (.string text) → x.outcome s = x.outcome s') ∧
    (∀ text environment, EnvFile.Plain text → s.file = EnvFile.assignments s.environment text →
      s.file = EnvFile.assignments environment text) := by
  refine ⟨fun st => read_eq_ok_iff, fun ds => read_eq_refused_iff, complaints_read_iff,
    fun days => read_eq_tooManyDays_iff, ?_, ?_, ?_, ?_, ?_, ?_⟩
  · intro x hx p v hdecides
    exact outcome_of_decides hs hdecides
  · intro x hx hnowhere
    exact outcome_of_nowhere hs hnowhere
  · intro s' hunseen
    have houtcome : ∀ x ∈ declared, x.outcome s = x.outcome s' := fun x hx =>
      outcome_of_eqvGen (fun a b hab => outcome_of_addsIdle hab hx) hunseen
    exact ⟨houtcome, read_congr houtcome⟩
  · intro x hx s' hconcerns y hy hyx
    have houtcome : y.outcome s = y.outcome s' :=
      outcome_of_eqvGen (fun a b hab => outcome_of_concerns hx hy hyx hab) hconcerns
    refine ⟨houtcome, fun st st' hread hread' => ?_, fun hnot hnot' => ?_⟩
    · have hvalue := read_eq_ok_iff.1 hread y hy
      rw [houtcome, read_eq_ok_iff.1 hread' y hy] at hvalue
      exact (Validated.accepted.inj hvalue).symm
    · rw [complaints_read hy hnot, complaints_read hy hnot', houtcome]
  · intro x hx s' text hs' hfile henvironment
    rw [outcome_of_holdsOnly hs hfile, outcome_of_holdsOnly hs' henvironment]
  · intro text environment hplain hfile
    rw [hfile, EnvFile.assignments_of_plain hplain]

/-- No attempt among the arguments, an empty name in the environment, and a lifetime in the file, in letters of any
case. -/
def layeredSources : Sources where
  arguments := [("store_Max_Update_Retries", .number (.int 0))]
  environment := [("SCANNER_engine_name", "")]
  file := [("scanner_Scan_Job_Ttl", some "PT2H")]

/-- The same with a name in the file too. -/
def coveredSources : Sources :=
  { layeredSources with file := [("scanner_Scan_Job_Ttl", some "PT2H"), ("SCANNER_ENGINE_NAME", some "Trivy")] }

/-- The same without a lifetime. -/
def endlessSources : Sources := { layeredSources with file := [] }

/-- The same with the lifetime in the environment. -/
def movedSources : Sources :=
  { endlessSources with environment := [("SCANNER_SCAN_JOB_TTL", "PT2H"), ("SCANNER_engine_name", "")] }

/-- The empty name counts, what it covers does not, the number of attempts is refused whatever the lifetime, and the
lifetime may stand in the file or in the environment. -/
theorem sources_shadow_layered :
    layeredSources.NamesDiffer ∧ read layeredSources = read coveredSources ∧
    complaints retries (read layeredSources) = [⟨[.name "STORE_MAX_UPDATE_RETRIES"], .belowLeast "1"⟩] ∧
    retries.outcome layeredSources = retries.outcome endlessSources ∧
    ttl.outcome layeredSources = ttl.outcome movedSources := by
  have hdiffer : layeredSources.NamesDiffer := by
    intro p
    cases p <;> decide +kernel
  have hcovered : coveredSources.NamesDiffer := by
    intro p
    cases p <;> decide +kernel
  have hmoved : movedSources.NamesDiffer := by
    intro p
    cases p <;> decide +kernel
  have hruns : ¬ Stops layeredSources := fun hstops =>
    absurd (congrArg Validated.defects hstops) (by decide +kernel)
  obtain ⟨-, -, hshown, -, hdecides, -, hunseen, hconcerns, halike, -⟩ := sources_shadow layeredSources hdiffer
  refine ⟨hdiffer, ?_, ?_, ?_, ?_⟩
  · have hadds : layeredSources.Adds .file "SCANNER_ENGINE_NAME" (some (.string "Trivy")) coveredSources := by
      refine ⟨⟨layeredSources.entries .file, [], by simp, rfl⟩, fun q hq => ?_⟩
      cases q with
      | arguments | environment => rfl
      | file => exact absurd rfl hq
    refine (hunseen coveredSources (.rel _ _ ⟨hcovered, .file, _, _, hadds, fun x hx hnames => ?_⟩)).2
    refine ⟨.environment, .string "", by decide, "SCANNER_engine_name", .head _, Eq.trans ?_ hnames⟩
    decide +kernel
  · have hdecided : layeredSources.Decides retries.name .arguments (.number (.int 0)) :=
      ⟨⟨"store_Max_Update_Retries", .head _, by decide +kernel⟩,
        fun q w hq => absurd hq (Nat.not_lt_zero _)⟩
    rw [hshown.2 hruns retries retries_mem, hdecides retries retries_mem _ _ hdecided]
    rfl
  · have hadds : endlessSources.Adds .file "scanner_Scan_Job_Ttl" (some (.string "PT2H")) layeredSources := by
      refine ⟨⟨[], [], rfl, rfl⟩, fun q hq => ?_⟩
      cases q with
      | arguments | environment => rfl
      | file => exact absurd rfl hq
    have hsteps : EqvGen (Concerns ttl) layeredSources endlessSources :=
      .symm _ _ (.rel _ _ ⟨hdiffer, .file, _, _, hadds, by decide +kernel⟩)
    have hother : retries ≠ ttl := fun hsame => absurd (congrArg Setting.name hsame) (by decide)
    exact (hconcerns ttl ttl_mem endlessSources hsteps retries retries_mem hother).1
  · refine halike ttl ttl_mem movedSources "PT2H" hmoved ⟨?_, ?_⟩ ⟨?_, ?_⟩
    · exact ⟨"scanner_Scan_Job_Ttl", .head _, by decide +kernel⟩
    · exact fun q w => eq_of_holds (by decide +kernel)
    · exact ⟨"SCANNER_SCAN_JOB_TTL", .head _, by decide +kernel⟩
    · exact fun q w => eq_of_holds (by decide +kernel)

/-- No attempt. -/
def fewSources : Sources := ⟨[("STORE_MAX_UPDATE_RETRIES", .number (.int 0))], [], []⟩

/-- The same with a lifetime that goes back a second less than a thousand million days. -/
def overflowSources : Sources :=
  { fewSources with arguments := [("SCAN_JOB_TTL", .string "-P999999999DT1S"),
    ("STORE_MAX_UPDATE_RETRIES", .number (.int 0))] }

/-- The lifetime hides what is wrong with the number of attempts. -/
theorem sources_shadow_overflow :
    Concerns ttl fewSources overflowSources ∧ retries ∈ declared ∧ retries.name ≠ ttl.name ∧
    complaints retries (read fewSources) = [⟨[.name "STORE_MAX_UPDATE_RETRIES"], .belowLeast "1"⟩] ∧
    complaints retries (read overflowSources) = [] ∧
    read overflowSources = .error (.tooManyDays (-1000000000)) := by
  have hadds : fewSources.Adds .arguments "SCAN_JOB_TTL" (some (.string "-P999999999DT1S")) overflowSources := by
    refine ⟨⟨[], fewSources.entries .arguments, rfl, rfl⟩, fun q hq => ?_⟩
    cases q with
    | arguments => exact absurd rfl hq
    | environment | file => rfl
  have hdiffer : overflowSources.NamesDiffer := by
    intro p
    cases p <;> decide +kernel
  exact ⟨⟨hdiffer, .arguments, _, _, hadds, by decide +kernel⟩, retries_mem, by decide, by decide +kernel,
    by decide +kernel, by decide +kernel⟩

end Settings

end ScanAdapter
