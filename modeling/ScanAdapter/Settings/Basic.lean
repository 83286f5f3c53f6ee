import ScanAdapter.Settings.EnvFile
import ScanAdapter.Validation.Scalar
import ScanAdapter.Report.Basic

/-!
# Settings

What the adapter is configured with. Each setting is looked for in the arguments, then in the
environment, then in the file of assignments, and has a value of its own where none of them has it. The
case of names does not matter, though an argument with the very name counts before the others; in the
environment and in the file names have a prefix.

| here | there |
| --- | --- |
| `Settings`, `read` | `Settings`, `Settings()` |
| `readTtl` | `_check_ttl` |
| `readTimeout`, `readRetries` | the bounds of `STORE_OPERATION_TIMEOUT` and `STORE_MAX_UPDATE_RETRIES` |
| `scanner` | `scanner_metadata` |
| `cached` | `get_settings` |
-/
namespace ScanAdapter

/-! ## Sources -/

/-- Where settings come from. -/
structure Sources where
  arguments : List (String × Json)
  environment : List (String × String)
  file : Entries (Option String)
  deriving Repr

namespace Sources

/-- Sources with a file of the given text, or without a file. -/
def ofTexts (arguments : List (String × Json)) (environment : List (String × String))
    (file : Option String) : Sources :=
  ⟨arguments, environment, (file.map (EnvFile.assignments environment)).getD []⟩

/-- Names as they are compared: their capitals are made small. -/
def folded (name : String) : List Char := name.toList.map Char.toLower

/-- The last value of a name, whatever its case. -/
def lastNamed? {α : Type} (name : String) (pairs : List (String × α)) : Option α :=
  (pairs.reverse.find? fun p => folded p.1 == folded name).map (·.2)

def envPrefix : String := "SCANNER_"

/-- The argument of this name, else the first whose name differs in case only. -/
def argument? (s : Sources) (name : String) : Option Json :=
  (s.arguments.lookup name).or ((s.arguments.find? fun p => folded p.1 == folded name).map (·.2))

/-- The value of a setting in the first source that has it. -/
def find? (s : Sources) (name : String) : Option Json :=
  (s.argument? name).or <|
    ((lastNamed? (envPrefix ++ name) s.environment).map .string).or <|
      (lastNamed? (envPrefix ++ name) s.file).bind fun v => v.map .string

/-- A setting with a value of its own where no source has it. -/
def setting {α : Type} (s : Sources) (name : String) (default : α) (read : Json → Validated α) :
    Validated α :=
  match s.find? name with
  | none => .accepted default
  | some v => (read v).under (.name name)

end Sources

/-! ## Settings -/

structure Settings where
  redisUrl : String
  storeNamespace : String
  scanJobTtl : Duration
  operationTimeout : Option Binary64
  maxUpdateRetries : Int
  engineName : String
  engineVendor : String
  engineVersion : String
  logLevel : String
  deriving DecidableEq, Repr

/-- Why settings cannot be read: some of them are refused, or one is a span of too many days, which stops
the reading at once. -/
inductive SettingsFault
  | refused (defects : List Defect)
  | tooManyDays (days : Int)
  deriving DecidableEq, Repr

/-- The fault that defects make. A span of too many days counts before all other defects. -/
def SettingsFault.ofDefects (ds : List Defect) : SettingsFault :=
  let days := ds.findSome? fun d =>
    match d.cause with
    | .tooManyDays days => some days
    | _ => none
  match days with
  | some days => tooManyDays days
  | none => refused ds

namespace Settings

/-- The server counts expiry in whole seconds, so a job lives for one at least. -/
def readTtl (v : Json) : Validated Duration :=
  (Validated.duration v).andThen fun d =>
    if d.microseconds < Duration.oneSecond.microseconds then
      .refuse (.rejected "SCAN_JOB_TTL must be at least one second")
    else .accepted d

/-- A time limit is above zero. -/
def readTimeout (v : Json) : Validated Binary64 :=
  (Validated.float .value v).andThen fun x =>
    if x.isPositive then .accepted x else .refuse (.notAbove "0")

/-- An update is tried once at least. -/
def readRetries (v : Json) : Validated Int :=
  (Validated.integer v).andThen fun n => if 1 ≤ n then .accepted n else .refuse (.belowLeast "1")

open Validated in
def ofSources (s : Sources) : Validated Settings := Settings.mk
  <$> s.setting "REDIS_URL" "redis://localhost:6379/0" text
  <*> s.setting "STORE_NAMESPACE" "harbor.scanner.trivy:store" text
  <*> s.setting "SCAN_JOB_TTL" .oneHour readTtl
  <*> s.setting "STORE_OPERATION_TIMEOUT" none (optional readTimeout)
  <*> s.setting "STORE_MAX_UPDATE_RETRIES" 5 readRetries
  <*> s.setting "ENGINE_NAME" "Trivy" text
  <*> s.setting "ENGINE_VENDOR" "Aqua Security" text
  <*> s.setting "ENGINE_VERSION" "Unknown" text
  <*> s.setting "LOG_LEVEL" "INFO" text

/-- The settings that the sources give. -/
def read (s : Sources) : Except SettingsFault Settings :=
  (ofSources s).toExcept.mapError SettingsFault.ofDefects

/-- The scanner that reports are signed with. -/
def scanner (s : Settings) : Scanner := ⟨s.engineName, s.engineVendor, s.engineVersion⟩

/-! ## One set of settings for all -/

/-- The settings once they have been read, else what reading them now gives. Only settings that were
accepted are kept. -/
def cached (kept : Option Settings) (s : Sources) : Option Settings × Except SettingsFault Settings :=
  match kept with
  | some settings => (kept, .ok settings)
  | none =>
    match read s with
    | .ok settings => (some settings, .ok settings)
    | .error fault => (none, .error fault)

/-- The answers of one call after another, each under sources of its own. -/
def cachedAll (kept : Option Settings) : List Sources → List (Except SettingsFault Settings)
  | [] => []
  | s :: rest =>
    let (kept, answer) := cached kept s
    answer :: cachedAll kept rest

end Settings

end ScanAdapter
