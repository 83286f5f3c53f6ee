import Mathlib.Data.List.Basic
import ScanAdapter.SetUp

/-!
# What is set up once

A process reads its settings anew until they are accepted, and from then on keeps them whatever its surroundings are
(`Settings.first_accepted_kept`). A refusal leaves no trace.

With the logger it is the other way round: the first set-up counts even if it is refused (`Logger.first_set_up_stays`).
Its handler is there before its level is looked at, so after an unknown level the threshold is still the one the
logger began with, and no later level changes it.
-/
namespace ScanAdapter

/-! ## Settings -/

namespace Settings

/-- The settings are those of the first sources that are accepted. -/
inductive FirstAccepted : List Sources → Settings → Prop
  | now {s : Sources} {rest : List Sources} {settings : Settings} :
    read s = .ok settings → FirstAccepted (s :: rest) settings
  | later {s : Sources} {rest : List Sources} {settings : Settings} {fault : SettingsFault} :
    read s = .error fault → FirstAccepted rest settings → FirstAccepted (s :: rest) settings

/-- What is kept after calls under these sources. -/
def keptAfter (kept : Option Settings) (ss : List Sources) : Option Settings :=
  ss.foldl (fun kept s => (cached kept s).1) kept

section

variable {s : Sources} {ss : List Sources} {settings : Settings} {fault : SettingsFault} {k : Nat}

theorem cached_accepted (h : read s = .ok settings) : cached none s = (some settings, .ok settings) := by
  unfold cached
  dsimp only
  rw [h]

theorem cached_refused (h : read s = .error fault) : cached none s = (none, .error fault) := by
  unfold cached
  dsimp only
  rw [h]

/-- A call answers with what is kept then, or with the refusal of its own sources. -/
theorem cached_cases (kept : Option Settings) (s : Sources) :
    (∃ settings, cached kept s = (some settings, .ok settings)) ∨
      ∃ fault, read s = .error fault ∧ cached kept s = (none, .error fault) := by
  cases kept with
  | some settings => exact .inl ⟨settings, rfl⟩
  | none =>
    cases hread : read s with
    | ok settings => exact .inl ⟨settings, cached_accepted hread⟩
    | error fault => exact .inr ⟨fault, rfl, cached_refused hread⟩

theorem keptAfter_append (kept : Option Settings) (ss others : List Sources) :
    keptAfter kept (ss ++ others) = keptAfter (keptAfter kept ss) others := List.foldl_append

/-- What is kept stays. -/
theorem keptAfter_some (settings : Settings) (ss : List Sources) : keptAfter (some settings) ss = some settings := by
  induction ss with
  | nil => rfl
  | cons s ss ih => exact ih

/-- Of all sources the first that are accepted are kept. -/
theorem keptAfter_eq_some_iff : keptAfter none ss = some settings ↔ FirstAccepted ss settings := by
  induction ss with
  | nil => exact ⟨nofun, nofun⟩
  | cons s ss ih =>
    have hcons : keptAfter none (s :: ss) = keptAfter (cached none s).1 ss := rfl
    -- an acceptance settles what is kept, and a refusal leaves it to the others
    cases hread : read s with
    | ok first =>
      rw [hcons, cached_accepted hread, keptAfter_some, Option.some_inj]
      constructor
      · rintro rfl
        exact .now hread
      · intro h
        cases h with
        | now hread' => exact Except.ok.inj (hread.symm.trans hread')
        | later hread' _ => cases hread.symm.trans hread'
    | error fault =>
      rw [hcons, cached_refused hread, ih]
      constructor
      · exact .later hread
      · intro h
        cases h with
        | now hread' => cases hread.symm.trans hread'
        | later _ hrest => exact hrest

theorem keptAfter_eq_none_iff : keptAfter none ss = none ↔ ¬ ∃ settings, FirstAccepted ss settings := by
  simp only [← keptAfter_eq_some_iff, ← Option.isSome_iff_exists, Option.not_isSome_iff_eq_none]

theorem length_cachedAll (kept : Option Settings) (ss : List Sources) : (cachedAll kept ss).length = ss.length := by
  induction ss generalizing kept with
  | nil => rfl
  | cons s ss ih => exact congrArg Nat.succ (ih _)

/-- The calls to come find what the calls so far have kept. -/
theorem cachedAll_append (kept : Option Settings) (ss others : List Sources) :
    cachedAll kept (ss ++ others) = cachedAll kept ss ++ cachedAll (keptAfter kept ss) others := by
  induction ss generalizing kept with
  | nil => rfl
  | cons s ss ih => exact congrArg ((cached kept s).2 :: ·) (ih _)

theorem cachedAll_some (settings : Settings) (ss : List Sources) :
    cachedAll (some settings) ss = List.replicate ss.length (.ok settings) := by
  induction ss with
  | nil => rfl
  | cons s ss ih => exact congrArg (Except.ok settings :: ·) ih

theorem getElem?_cachedAll (kept : Option Settings) (hs : ss[k]? = some s) :
    (cachedAll kept ss)[k]? = some (cached (keptAfter kept (ss.take k)) s).2 := by
  obtain ⟨hk, rfl⟩ := List.getElem?_eq_some_iff.1 hs
  have hlength : (cachedAll kept (ss.take k)).length = k := by
    rw [length_cachedAll, List.length_take_of_le (Nat.le_of_lt hk)]
  have hsplit : ss = ss.take k ++ ss[k] :: ss.drop (k + 1) := by simp
  conv_lhs => rw [hsplit, cachedAll_append]
  rw [List.getElem?_append_right (Nat.le_of_eq hlength), hlength, Nat.sub_self]
  rfl

theorem keptAfter_take_succ (kept : Option Settings) (hs : ss[k]? = some s) :
    keptAfter kept (ss.take (k + 1)) = (cached (keptAfter kept (ss.take k)) s).1 := by
  rw [List.take_add_one, hs, keptAfter_append]
  rfl

end

/-- **Each answer is that of the first sources so far that are accepted, or else the refusal of the sources at hand.
After an acceptance every answer is the same, and after any number of refusals all is as it was at the start.** -/
theorem first_accepted_kept (ss : List Sources) :
    (cachedAll none ss).length = ss.length ∧
    (∀ k s, ss[k]? = some s →
      (∀ settings, FirstAccepted (ss.take (k + 1)) settings → (cachedAll none ss)[k]? = some (.ok settings)) ∧
      ((¬ ∃ settings, FirstAccepted (ss.take (k + 1)) settings) →
        ∃ fault, read s = .error fault ∧ (cachedAll none ss)[k]? = some (.error fault))) ∧
    (∀ settings, FirstAccepted ss settings → ∀ others : List Sources,
      cachedAll none (ss ++ others) = cachedAll none ss ++ List.replicate others.length (.ok settings)) ∧
    ((¬ ∃ settings, FirstAccepted ss settings) → ∀ others : List Sources,
      cachedAll none (ss ++ others) = cachedAll none ss ++ cachedAll none others) := by
  refine ⟨length_cachedAll none ss, fun k s hs => ?_, fun settings hfirst others => ?_, fun hnone others => ?_⟩
  · have hkept := keptAfter_take_succ none hs
    rw [getElem?_cachedAll none hs]
    rcases cached_cases (keptAfter none (ss.take k)) s with ⟨found, hcached⟩ | ⟨fault, hread, hcached⟩
    · rw [hcached] at hkept ⊢
      refine ⟨fun settings hfirst => ?_, fun hnone => absurd ⟨found, keptAfter_eq_some_iff.1 hkept⟩ hnone⟩
      rw [← keptAfter_eq_some_iff, hkept, Option.some_inj] at hfirst
      rw [hfirst]
    · rw [hcached] at hkept ⊢
      refine ⟨fun settings hfirst => ?_, fun _ => ⟨fault, hread, rfl⟩⟩
      exact absurd ⟨settings, hfirst⟩ (keptAfter_eq_none_iff.1 hkept)
  · rw [cachedAll_append, keptAfter_eq_some_iff.2 hfirst, cachedAll_some]
  · rw [cachedAll_append, keptAfter_eq_none_iff.2 hnone]

/-- No attempt. -/
def attemptless : Sources := .ofTexts [] [("SCANNER_STORE_MAX_UPDATE_RETRIES", "0")] none

/-- Little more than the defaults. -/
def renamed : Sources := .ofTexts [] [("SCANNER_ENGINE_NAME", "Another")] none

def renamedSettings : Settings where
  redisUrl := "redis://localhost:6379/0"
  storeNamespace := "harbor.scanner.trivy:store"
  scanJobTtl := .oneHour
  operationTimeout := none
  maxUpdateRetries := 5
  engineName := "Another"
  engineVendor := "Aqua Security"
  engineVersion := "Unknown"
  logLevel := "INFO"

/-- A refusal is forgotten, and one that comes after an acceptance is not even seen. -/
theorem first_accepted_kept_renamed :
    (∃ fault, read attemptless = .error fault ∧
      (cachedAll none [attemptless, renamed, attemptless])[0]? = some (.error fault)) ∧
    (cachedAll none [attemptless, renamed, attemptless])[1]? = some (.ok renamedSettings) ∧
    (cachedAll none [attemptless, renamed, attemptless])[2]? = some (.ok renamedSettings) := by
  have hrefused : read attemptless = .error (.refused [⟨[.name "STORE_MAX_UPDATE_RETRIES"], .belowLeast "1"⟩]) := by
    decide +kernel
  have haccepted : read renamed = .ok renamedSettings := by decide +kernel
  obtain ⟨-, hanswers, -, -⟩ := first_accepted_kept [attemptless, renamed, attemptless]
  refine ⟨(hanswers 0 attemptless rfl).2 ?_, (hanswers 1 renamed rfl).1 _ ?_, (hanswers 2 attemptless rfl).1 _ ?_⟩
  · rintro ⟨settings, hfirst⟩
    cases hfirst with
    | now hread =>
      rw [hrefused] at hread
      cases hread
    | later _ hrest => cases hrest
  · exact .later hrefused (.now haccepted)
  · exact .later hrefused (.now haccepted)

end Settings

/-! ## The logger -/

/-- The name is one of those by which a threshold can be asked for. -/
def IsThreshold (name : String) : Prop := name ∈ thresholds.map (·.1)

instance (name : String) : Decidable (IsThreshold name) := inferInstanceAs (Decidable (name ∈ thresholds.map (·.1)))

namespace Logger

variable {l : Logger} {level : String} {threshold : Nat}

theorem configure_set_up (h : l.handlers ≠ 0) (level : String) : l.configure level = (l, none) := if_pos h

theorem configure_known (h : l.handlers = 0) (hlevel : (Text.upper level, threshold) ∈ thresholds) :
    l.configure level = (⟨threshold, 1⟩, none) := by
  have hlookup : thresholds.lookup (Text.upper level) = some threshold :=
    (Entries.get?_eq_some_iff (by decide)).2 hlevel
  rw [configure, if_neg (not_not.2 h)]
  dsimp only
  rw [hlookup]

/-- The handler is there, though the set-up fails. -/
theorem configure_unknown (h : l.handlers = 0) (hlevel : ¬ IsThreshold (Text.upper level)) :
    l.configure level = (⟨l.threshold, 1⟩, some (unknownLevel (Text.upper level))) := by
  have hlookup : thresholds.lookup (Text.upper level) = none := Entries.get?_eq_none_iff.2 hlevel
  rw [configure, if_neg (not_not.2 h)]
  dsimp only
  rw [hlookup]

/-- Everything that the first set-up can come to. -/
theorem configure_cases (h : l.handlers = 0) (level : String) :
    (∃ threshold, (Text.upper level, threshold) ∈ thresholds ∧ l.configure level = (⟨threshold, 1⟩, none)) ∨
      ¬ IsThreshold (Text.upper level) ∧
        l.configure level = (⟨l.threshold, 1⟩, some (unknownLevel (Text.upper level))) := by
  by_cases hlevel : IsThreshold (Text.upper level)
  · obtain ⟨⟨name, threshold⟩, hmem, rfl⟩ := List.mem_map.1 hlevel
    exact .inl ⟨threshold, hmem, configure_known h hmem⟩
  · exact .inr ⟨hlevel, configure_unknown h hlevel⟩

/-- A set-up leaves a handler, whatever its level is. -/
theorem configure_handlers (h : l.handlers = 0) (level : String) : (l.configure level).1.handlers = 1 := by
  rcases configure_cases h level with ⟨threshold, -, hleft⟩ | ⟨-, hleft⟩ <;> rw [hleft]

/-- A set-up fails for its level alone. -/
theorem configure_fails_iff (h : l.handlers = 0) (level message : String) : (l.configure level).2 = some message ↔
    ¬ IsThreshold (Text.upper level) ∧ message = unknownLevel (Text.upper level) := by
  rcases configure_cases h level with ⟨threshold, hmem, hleft⟩ | ⟨hunknown, hleft⟩
  · have hknown : IsThreshold (Text.upper level) := List.mem_map_of_mem hmem
    simp [hleft, hknown]
  · simp [hleft, hunknown, eq_comm]

theorem configureAll_set_up (h : l.handlers ≠ 0) (levels : List String) :
    l.configureAll levels = List.replicate levels.length (l, none) := by
  induction levels with
  | nil => rfl
  | cons level levels ih => rw [configureAll, configure_set_up h, ih, List.length_cons, List.replicate_succ]

/-- Of all set-ups only the first does anything. -/
theorem configureAll_cons (h : l.handlers = 0) (level : String) (later : List String) :
    l.configureAll (level :: later) =
      l.configure level :: List.replicate later.length ((l.configure level).1, none) := by
  have hhandlers : (l.configure level).1.handlers ≠ 0 := by simp [configure_handlers h level]
  rw [configureAll, configureAll_set_up hhandlers]

theorem length_configureAll (l : Logger) (levels : List String) : (l.configureAll levels).length = levels.length := by
  induction levels generalizing l with
  | nil => rfl
  | cons level levels ih => exact congrArg Nat.succ (ih _)

/-- What a set-up leaves is what the first one left, and if it is not the first it ends well. -/
theorem getElem?_configureAll {later : List String} {k : Nat} {after : Logger × Option String} (h : l.handlers = 0)
    (hafter : (l.configureAll (level :: later))[k]? = some after) :
    after.1 = (l.configure level).1 ∧ after.2 = if k = 0 then (l.configure level).2 else none := by
  rw [configureAll_cons h] at hafter
  cases k with
  | zero =>
    obtain rfl := Option.some.inj hafter
    exact ⟨rfl, rfl⟩
  | succ k =>
    rw [List.getElem?_cons_succ] at hafter
    obtain rfl := List.eq_of_mem_replicate (List.mem_of_getElem? hafter)
    exact ⟨rfl, rfl⟩

/-- A service is set up with the logger as it is, once it has a handler. -/
theorem setUp_set_up (h : l.handlers ≠ 0) (s : Settings) : s.setUp l = (l, .ok ([s.readyLine].filter l.shows)) := by
  rw [Settings.setUp, configure_set_up h]

/-- **After every set-up there is one handler. Only the first can fail, and it does if its level in capitals is no
name of a threshold. The threshold stays the one that the first level asked for, or the one at the start if there is
none of this name, whatever levels are asked for later and whatever services are set up.** -/
theorem first_set_up_stays (level : String) (later : List String) :
    (fresh.configureAll (level :: later)).length = later.length + 1 ∧
    ∀ k after, (fresh.configureAll (level :: later))[k]? = some after →
      after.1.handlers = 1 ∧
      (∀ message, after.2 = some message ↔
        k = 0 ∧ ¬ IsThreshold (Text.upper level) ∧ message = unknownLevel (Text.upper level)) ∧
      (∀ threshold, (Text.upper level, threshold) ∈ thresholds → after.1.threshold = threshold) ∧
      (¬ IsThreshold (Text.upper level) → after.1.threshold = 30) ∧
      ∀ s : Settings, s.setUp after.1 = (after.1, .ok ([s.readyLine].filter after.1.shows)) := by
  refine ⟨length_configureAll fresh _, fun k after hafter => ?_⟩
  have hfresh : fresh.handlers = 0 := rfl
  obtain ⟨hleft, hends⟩ := getElem?_configureAll hfresh hafter
  have hhandlers : after.1.handlers = 1 := by rw [hleft, configure_handlers hfresh]
  refine ⟨hhandlers, fun message => ?_, fun threshold hmem => ?_, fun hunknown => ?_, fun s => ?_⟩
  · rw [hends, ← configure_fails_iff hfresh]
    by_cases hk : k = 0 <;> simp [hk]
  · rw [hleft, configure_known hfresh hmem]
  · rw [hleft, configure_unknown hfresh hunknown]
    rfl
  · exact setUp_set_up (by simp [hhandlers]) s

/-- With a dotless letter the first level is a name in capitals, and the second does nothing. After a first level that
is no name the threshold stays as it was. -/
theorem first_set_up_stays_dotless :
    (∃ after, (fresh.configureAll ["\u0131nfo", "debug"])[1]? = some after ∧ after.1.threshold = 20) ∧
    (∃ after, (fresh.configureAll ["loud", "debug"])[0]? = some after ∧ after.2 = some (unknownLevel "LOUD")) ∧
    ∃ after, (fresh.configureAll ["loud", "debug"])[1]? = some after ∧ after.1.threshold = 30 := by
  have hname : Text.upper "loud" = "LOUD" := by decide +kernel
  have hunknown : ¬ IsThreshold (Text.upper "loud") := by
    rw [hname]
    decide
  obtain ⟨-, hinfo⟩ := first_set_up_stays "\u0131nfo" ["debug"]
  obtain ⟨-, hloud⟩ := first_set_up_stays "loud" ["debug"]
  refine ⟨⟨_, rfl, ?_⟩, ⟨_, rfl, ?_⟩, ⟨_, rfl, ?_⟩⟩
  · exact (hinfo 1 _ rfl).2.2.1 20 (by decide +kernel)
  · exact ((hloud 0 _ rfl).2.1 _).2 ⟨rfl, hunknown, by rw [hname]⟩
  · exact (hloud 1 _ rfl).2.2.2.1 hunknown

end Logger

end ScanAdapter
