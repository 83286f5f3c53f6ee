import ScanAdapter.Proofs.Store.Bustle
import ScanAdapter.Proofs.Validation.Parts
import ScanAdapter.Proofs.Wire.Decoded
import ScanAdapter.SetUp

/-!
# Settings that are accepted

Settings are accepted from any source and in any notation, and whatever is accepted makes a store that works
(`JobStore.Works`): the server takes its lifetimes, its updates are tried, and its time limit leaves them time. What
would not work is refused (`Settings.accepted_works`).
-/
namespace ScanAdapter

/-! ## A store that works -/

/-- The seconds for which a key is to be there. -/
def Request.seconds? : Request → Option Int
  | setIfAbsent _ _ seconds => some seconds
  | commit _ _ _ seconds => some seconds
  | _ => none

/-- A store that does its work: every lifetime that a call asks for is a second at least, and is taken by a server
whose clock can tell the end of the longest span; an update is tried, gives up only after a change of the key at every
attempt, and changes a job to which nothing happens; and the time limit is above zero if there is one. -/
structure JobStore.Works (s : JobStore) : Prop where
  ttl : ∀ (call : Call) (timeout : Option Number) (id : String) (q : Request) (seconds : Int),
    (Caller.program ⟨s, call, timeout⟩ (call.on id)).MayAsk q → q.seconds? = some seconds →
    1 ≤ seconds ∧ ∀ server : Server, Server.Tells server.now 86400000000000 → server.expiryFault? seconds = none
  maxUpdateRetries : 1 ≤ s.maxUpdateRetries
  givesUp : ∀ (u : Update) (id : String) (timeout : Option Number) (happens : Nat → Server → Server) (server : Server)
    (e : StoreError), Bustle.run happens server (s.perform u id timeout) = .failed (.store e) → e.kind = .conflict →
    ∃ n, Bustle.Changes (Bustle.state happens server) (s.keyFor id) s.maxUpdateRetries.toNat n
  updates : ∀ (u : Update) (id : String) (timeout : Option Number) (happens : Nat → Server → Server) (server : Server)
    (text : String) (job : ScanJob), u.fault? = none → (∀ limit ∈ timeout, limit.isAtMostZero = false) →
    Bustle.Quiet happens server (s.keyFor id) s.ttl.wholeSeconds →
    server.read (s.keyFor id) = .ok (some text) → ScanJob.decode text = .ok job →
    Bustle.run happens server (s.perform u id timeout) = .value (u.apply job)
  operationTimeout : ∀ limit ∈ s.operationTimeout, ∃ x : Binary64, limit = .float x ∧ x.isPositive = true

theorem Binary64.isAtMostZero_eq_false {x : Binary64} (h : x.isPositive = true) : x.isAtMostZero = false := by
  cases x with
  | finite x => simpa [isPositive, isAtMostZero] using h
  | infinite negative => simpa [isPositive, isAtMostZero] using h
  | nan => rfl

/-- A lifetime that is asked for is that of the store. -/
theorem Caller.seconds_eq {c : Caller} {id : String} {q : Request} {seconds : Int}
    (hasks : (c.program (c.call.on id)).MayAsk q) (hseconds : q.seconds? = some seconds) :
    seconds = c.store.ttl.wholeSeconds := by
  obtain ⟨k, hmay⟩ := (c.follows_program id).exists_may hasks
  have hcommand : q.isCommand = true := by
    cases q with
    | setIfAbsent _ _ _ | commit _ _ _ _ => rfl
    | _ => cases hseconds
  obtain ⟨mark, held, crossed, rfl⟩ := Caller.active_of_isCommand hmay hcommand
  cases q with
  | setIfAbsent key text n =>
    cases hseconds
    exact hmay.2.1
  | commit key m text n =>
    cases hseconds
    exact hmay.2.1
  | _ => cases hseconds

/-- A store works whose lifetime is a span of a second at least, and that tries its updates in a time above zero. -/
theorem JobStore.works {s : JobStore} {ttl : Duration} (hspan : s.ttl = .span ttl)
    (hlife : Duration.second ≤ ttl.microseconds) (hattempts : 1 ≤ s.maxUpdateRetries)
    (htime : ∀ limit ∈ s.operationTimeout, ∃ x : Binary64, limit = .float x ∧ x.isPositive = true) : s.Works := by
  have hseconds : s.ttl.wholeSeconds = ttl.wholeSeconds := by rw [hspan, Ttl.wholeSeconds]
  have hone : 1 ≤ s.ttl.wholeSeconds := hseconds ▸ Duration.one_le_wholeSeconds hlife
  constructor
  case maxUpdateRetries => exact hattempts
  case operationTimeout => exact htime
  case ttl =>
    intro call timeout id q seconds hasks hq
    obtain rfl : seconds = s.ttl.wholeSeconds := Caller.seconds_eq hasks hq
    refine ⟨hone, fun server hclock => Server.expiryFault?_eq_none hone ?_⟩
    have hlongest := ttl.wholeSeconds_le
    obtain ⟨hnow, hend⟩ := hclock
    refine ⟨hnow, ?_⟩
    simp only [Number.fits64, Bool.and_eq_true, decide_eq_true_iff] at hend ⊢
    omega
  case givesUp =>
    intro u id timeout happens server e hrun hkind
    exact Bustle.changes_of_conflict hrun hkind
  case updates =>
    intro u id timeout happens server text job hu htimeout hquiet hread hdecode
    refine Bustle.updated_of_quiet hattempts hone ?_ hu hquiet hread hdecode
    intro limit hlimit
    rcases Option.or_eq_some_iff.1 hlimit with hgiven | ⟨-, hdefault⟩
    · exact htimeout limit hgiven
    · obtain ⟨x, rfl, hpositive⟩ := htime limit hdefault
      exact Binary64.isAtMostZero_eq_false hpositive

/-! ## Sources -/

/-- The first source that has the setting gives it this value. -/
inductive Sources.Gives (s : Sources) (name : String) : Json → Prop
  | argument {v : Json} (h : s.argument? name = some v) : Gives s name v
  | environment {text : String} (hargument : s.argument? name = none)
    (h : lastNamed? (envPrefix ++ name) s.environment = some text) : Gives s name (.string text)
  | file {text : String} (hargument : s.argument? name = none)
    (henvironment : lastNamed? (envPrefix ++ name) s.environment = none)
    (h : lastNamed? (envPrefix ++ name) s.file = some (some text)) : Gives s name (.string text)

theorem Sources.Gives.find? {s : Sources} {name : String} {v : Json} (h : s.Gives name v) : s.find? name = some v := by
  cases h with
  | argument h => rw [Sources.find?, h, Option.some_or]
  | environment hargument h => rw [Sources.find?, hargument, h, Option.none_or, Option.map_some, Option.some_or]
  | file hargument henvironment h =>
    rw [Sources.find?, hargument, henvironment, h, Option.none_or, Option.map_none, Option.none_or]
    rfl

/-! ## What is accepted -/

namespace Validated

variable {α β : Type}

theorem Yields.andThen {Q : β → Prop} {x : Validated α} {f : α → Validated β} (h : ∀ a, (f a).Yields Q) :
    (x.andThen f).Yields Q := by
  intro b hb
  cases x with
  | accepted a => exact h a b hb
  | refused ds => cases hb

/-- A value is let pass on a condition. -/
theorem Yields.ite {Q : α → Prop} {c : Prop} [Decidable c] {x y : Validated α} (hx : c → x.Yields Q)
    (hy : ¬ c → y.Yields Q) : (if c then x else y).Yields Q := by
  split
  · rename_i hc
    exact hx hc
  · rename_i hc
    exact hy hc

end Validated

namespace Settings

open Validated

theorem readTtl_yields (v : Json) : (readTtl v).Yields fun d => (Duration.second : Int) ≤ d.microseconds := by
  refine .andThen fun d => .ite (fun _ => .refused _) fun hlong => .accepted ?_
  have hsecond : Duration.oneSecond.microseconds = (Duration.second : Int) := rfl
  omega

theorem readTimeout_yields (v : Json) : (readTimeout v).Yields fun x => x.isPositive = true :=
  .andThen fun _ => .ite (fun hpositive => .accepted hpositive) fun _ => .refused _

theorem readRetries_yields (v : Json) : (readRetries v).Yields fun n => 1 ≤ n :=
  .andThen fun _ => .ite (fun hone => .accepted hone) fun _ => .refused _

theorem setting_yields {α : Type} {s : Sources} {name : String} {default : α} {read : Json → Validated α} {Q : α → Prop}
    (hdefault : Q default) (h : ∀ v, (read v).Yields Q) : (s.setting name default read).Yields Q := by
  unfold Sources.setting
  split
  · exact .accepted hdefault
  · exact .under (h _)

/-- The bounds that settings keep to. -/
structure Bounded (st : Settings) : Prop where
  ttl : (Duration.second : Int) ≤ st.scanJobTtl.microseconds
  timeout : ∀ x ∈ st.operationTimeout, x.isPositive = true
  retries : 1 ≤ st.maxUpdateRetries

theorem ofSources_yields (s : Sources) : (ofSources s).Yields Bounded := by
  have httl : (s.setting "SCAN_JOB_TTL" .oneHour readTtl).Yields fun d => (Duration.second : Int) ≤ d.microseconds :=
    setting_yields (by decide) readTtl_yields
  have htimeout : (s.setting "STORE_OPERATION_TIMEOUT" none (Validated.optional readTimeout)).Yields
      fun o => ∀ x ∈ o, x.isPositive = true := setting_yields nofun fun v => .optional (readTimeout_yields v)
  have hretries : (s.setting "STORE_MAX_UPDATE_RETRIES" 5 readRetries).Yields fun n => 1 ≤ n :=
    setting_yields (by decide) readRetries_yields
  -- the settings after these three are not asked for, nor are the two before them
  refine .seq_any (.seq_any (.seq_any (.seq_any (.seq (.seq (.seq (.seq_any (.map ?_)) httl) htimeout) hretries))))
  intro redisUrl _ storeNamespace ttl hle timeout hpositive retries hone engineName engineVendor engineVersion logLevel
  exact ⟨hle, hpositive, hone⟩

theorem bounded_of_read {s : Sources} {st : Settings} (h : read s = .ok st) : st.Bounded := by
  refine ofSources_yields s st ?_
  unfold read at h
  cases hsettings : ofSources s with
  | accepted st' =>
    rw [hsettings] at h
    cases h
    rfl
  | refused ds =>
    rw [hsettings] at h
    cases h

theorem Bounded.works {st : Settings} (h : st.Bounded) : st.store.Works := by
  refine @JobStore.works st.store st.scanJobTtl rfl h.ttl h.retries fun limit hlimit => ?_
  obtain ⟨x, hx, rfl⟩ := Option.map_eq_some_iff.1 hlimit
  exact ⟨x, rfl, h.timeout x hx⟩

/-! ## What is refused -/

/-- The settings cannot be read, and the defect is one of those that are found. -/
def Refuses (s : Sources) (d : Defect) : Prop := (∃ fault, read s = .error fault) ∧ d ∈ (ofSources s).defects

theorem mem_defects_setting {α : Type} {s : Sources} {name : String} {default : α} {read : Json → Validated α} {v : Json}
    {cause : Cause} (hgives : s.Gives name v) (hread : read v = .refuse cause) :
    ⟨[.name name], cause⟩ ∈ (s.setting name default read).defects := by
  rw [Sources.setting, hgives.find?]
  dsimp only
  rw [hread]
  exact List.mem_singleton.2 rfl

/-- A defect of one of the three settings that have bounds is found. -/
theorem refuses_of_mem {s : Sources} {d : Defect}
    (h : d ∈ (s.setting "SCAN_JOB_TTL" .oneHour readTtl).defects ∨
      d ∈ (s.setting "STORE_OPERATION_TIMEOUT" none (Validated.optional readTimeout)).defects ∨
      d ∈ (s.setting "STORE_MAX_UPDATE_RETRIES" 5 readRetries).defects) : Refuses s d := by
  have hmem : d ∈ (ofSources s).defects := by
    simp only [ofSources, map_eq, seq_eq, defects_ap, defects_map, List.mem_append]
    rcases h with h | h | h <;> simp only [h, true_or, or_true]
  refine ⟨?_, hmem⟩
  unfold read
  cases hsettings : ofSources s with
  | accepted st =>
    rw [hsettings] at hmem
    cases hmem
  | refused ds => exact ⟨_, rfl⟩

theorem refuses_ttl {s : Sources} {v : Json} {d : Duration} (hgives : s.Gives "SCAN_JOB_TTL" v)
    (hread : Validated.duration v = .accepted d) (hshort : d.microseconds < 1000000) :
    Refuses s ⟨[.name "SCAN_JOB_TTL"], .rejected "SCAN_JOB_TTL must be at least one second"⟩ := by
  have hrefuse : readTtl v = .refuse (.rejected "SCAN_JOB_TTL must be at least one second") := by
    rw [readTtl, hread]
    exact if_pos hshort
  exact refuses_of_mem (.inl (mem_defects_setting hgives hrefuse))

theorem refuses_retries {s : Sources} {v : Json} {n : Int} (hgives : s.Gives "STORE_MAX_UPDATE_RETRIES" v)
    (hread : Validated.integer v = .accepted n) (hfew : n < 1) :
    Refuses s ⟨[.name "STORE_MAX_UPDATE_RETRIES"], .belowLeast "1"⟩ := by
  have hrefuse : readRetries v = .refuse (.belowLeast "1") := by
    rw [readRetries, hread]
    exact if_neg (by omega)
  exact refuses_of_mem (.inr (.inr (mem_defects_setting hgives hrefuse)))

theorem refuses_timeout {s : Sources} {v : Json} {x : Binary64} (hgives : s.Gives "STORE_OPERATION_TIMEOUT" v)
    (hread : Validated.float .value v = .accepted x) (hnone : x.isAtMostZero = true ∨ x = .nan) :
    Refuses s ⟨[.name "STORE_OPERATION_TIMEOUT"], .notAbove "0"⟩ := by
  have hnot : ¬ x.isPositive = true := by
    rintro hpositive
    rcases hnone with hzero | rfl
    · exact Bool.false_ne_true ((Binary64.isAtMostZero_eq_false hpositive).symm.trans hzero)
    · cases hpositive
  have hrefuse : Validated.optional readTimeout v = .refuse (.notAbove "0") := by
    have hlimit : readTimeout v = .refuse (.notAbove "0") := by
      rw [readTimeout, hread]
      exact if_neg hnot
    cases v with
    | null => cases hread
    | _ =>
      rw [Validated.optional, hlimit]
      · rfl
      · nofun
  exact refuses_of_mem (.inr (.inl (mem_defects_setting hgives hrefuse)))

/-- **Settings that are accepted make a store that works, and what would not work is refused: a lifetime below a second,
fewer than one attempt, and a time limit that is not above zero.** -/
theorem accepted_works (s : Sources) :
    (∀ st, read s = .ok st → st.store.Works) ∧
    (∀ v d, s.Gives "SCAN_JOB_TTL" v → Validated.duration v = .accepted d → d.microseconds < 1000000 →
      Refuses s ⟨[.name "SCAN_JOB_TTL"], .rejected "SCAN_JOB_TTL must be at least one second"⟩) ∧
    (∀ v n, s.Gives "STORE_MAX_UPDATE_RETRIES" v → Validated.integer v = .accepted n → n < 1 →
      Refuses s ⟨[.name "STORE_MAX_UPDATE_RETRIES"], .belowLeast "1"⟩) ∧
    (∀ v x, s.Gives "STORE_OPERATION_TIMEOUT" v → Validated.float .value v = .accepted x →
      x.isAtMostZero = true ∨ x = .nan → Refuses s ⟨[.name "STORE_OPERATION_TIMEOUT"], .notAbove "0"⟩) := by
  refine ⟨?_, ?_, ?_, ?_⟩
  · intro st hread
    exact (bounded_of_read hread).works
  · intro v d hgives hread hshort
    exact refuses_ttl hgives hread hshort
  · intro v n hgives hread hfew
    exact refuses_retries hgives hread hfew
  · intro v x hgives hread hnone
    exact refuses_timeout hgives hread hnone

/-- A lifetime of one second by its truth value, a limit without end from the environment, and one attempt from the
file. -/
def leastSources : Sources :=
  .ofTexts [("SCAN_JOB_TTL", .bool true)] [("SCANNER_STORE_OPERATION_TIMEOUT", "inf")]
    (some "scanner_store_max_update_retries = 1")

def leastSettings : Settings where
  redisUrl := "redis://localhost:6379/0"
  storeNamespace := "harbor.scanner.trivy:store"
  scanJobTtl := .oneSecond
  operationTimeout := some (.infinite false)
  maxUpdateRetries := 1
  engineName := "Trivy"
  engineVendor := "Aqua Security"
  engineVersion := "Unknown"
  logLevel := "INFO"

/-- No attempt by its truth value, a microsecond too little from the environment, and no number from the file. -/
def shortSources : Sources :=
  .ofTexts [("STORE_MAX_UPDATE_RETRIES", .bool false)] [("SCANNER_SCAN_JOB_TTL", "00:00:00.999999")]
    (some "SCANNER_STORE_OPERATION_TIMEOUT=nan")

/-- The least settings make a store that works, and what is a little less is refused. -/
theorem accepted_works_least : leastSettings.store.Works ∧
    Refuses shortSources ⟨[.name "SCAN_JOB_TTL"], .rejected "SCAN_JOB_TTL must be at least one second"⟩ ∧
    Refuses shortSources ⟨[.name "STORE_MAX_UPDATE_RETRIES"], .belowLeast "1"⟩ ∧
    Refuses shortSources ⟨[.name "STORE_OPERATION_TIMEOUT"], .notAbove "0"⟩ := by
  obtain ⟨-, httl, hretries, htimeout⟩ := accepted_works shortSources
  refine ⟨(accepted_works leastSources).1 leastSettings (by decide +kernel), ?_, ?_, ?_⟩
  · have hread : Validated.duration (.string "00:00:00.999999") = .accepted ⟨999999, by decide⟩ := by
      have hspan : Duration.ofString "00:00:00.999999" = .ok ⟨999999, by decide⟩ := by decide +kernel
      rw [Validated.duration, hspan]
      rfl
    exact httl _ _ (.environment (by decide +kernel) (by decide +kernel)) hread (by decide)
  · exact hretries (.bool false) 0 (.argument (by rfl)) rfl (by decide)
  · have hread : Validated.float .value (.string "nan") = .accepted .nan := by
      have hnan : Number.float? "nan" = some .nan := by decide +kernel
      rw [Validated.float, hnan]
    exact htimeout _ _ (.file (by decide +kernel) (by decide +kernel) (by decide +kernel)) hread (.inr rfl)

end Settings

end ScanAdapter
