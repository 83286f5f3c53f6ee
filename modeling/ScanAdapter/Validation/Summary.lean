import ScanAdapter.Validation.Basic
import ScanAdapter.Json.Writer
import ScanAdapter.Time.Duration

/-!
# What a refusal says

A refused value is summed up in a text: how many defects it has in which model, and for each defect
its place, what was expected there, the code of the defect, and the value that was found.
-/
namespace ScanAdapter

/-- The code of a defect. -/
def Cause.code : Cause → String
  | .missing => "missing"
  | .notText => "string_type"
  | .notList => "list_type"
  | .notObject => "dict_type"
  | .notModel _ => "model_type"
  | .notListed _ => "enum"
  | .notNumber => "float_type"
  | .unreadableNumber => "float_parsing"
  | .notInteger => "int_type"
  | .unreadableInteger => "int_parsing"
  | .integerTooLarge => "int_parsing_size"
  | .fractionalInteger => "int_from_float"
  | .notFinite => "finite_number"
  | .notMoment => "datetime_type"
  | .momentOutOfRange _ => "datetime_parsing"
  | .unreadableMoment _ => "datetime_from_date_parsing"
  | .notDuration => "time_delta_type"
  | .unreadableDuration | .tooManyDays _ => "time_delta_parsing"
  | .belowLeast _ => "greater_than_equal"
  | .notAbove _ => "greater_than"
  | .rejected _ => "value_error"
  | .notJson _ => "json_invalid"

/-- What was expected. Where a whole JSON text was read, lists and objects go by their JSON names. -/
def Cause.message (ofText : Bool) : Cause → String
  | .missing => "Field required"
  | .notText => "Input should be a valid string"
  | .notList => if ofText then "Input should be a valid array" else "Input should be a valid list"
  | .notObject => if ofText then "Input should be an object" else "Input should be a valid dictionary"
  | .notModel model =>
    if ofText then "Input should be an object"
    else s!"Input should be a valid dictionary or instance of {model}"
  | .notListed expected => s!"Input should be {expected}"
  | .notNumber => "Input should be a valid number"
  | .unreadableNumber => "Input should be a valid number, unable to parse string as a number"
  | .notInteger => "Input should be a valid integer"
  | .unreadableInteger => "Input should be a valid integer, unable to parse string as an integer"
  | .integerTooLarge => "Unable to parse input string as an integer, exceeded maximum size"
  | .fractionalInteger => "Input should be a valid integer, got a number with a fractional part"
  | .notFinite => "Input should be a finite number"
  | .notMoment => "Input should be a valid datetime"
  | .momentOutOfRange complaint => s!"Input should be a valid datetime, {complaint}"
  | .unreadableMoment complaint => s!"Input should be a valid datetime or date, {complaint}"
  | .notDuration => "Input should be a valid timedelta"
  | .unreadableDuration => "Input should be a valid timedelta, invalid digit in duration"
  | .tooManyDays days => s!"Input should be a valid timedelta, {Duration.overflowMessage days}"
  | .belowLeast least => s!"Input should be greater than or equal to {least}"
  | .notAbove bound => s!"Input should be greater than {bound}"
  | .rejected reason => s!"Value error, {reason}"
  | .notJson complaint => s!"Invalid JSON: {complaint}"

/-! ## Values -/

/-- The value at a path; a missing member shows the object that lacks it. -/
def Json.at : List PathPart → Json → Json
  | .name s :: path, .object ms =>
    match Entries.get? s ms with
    | some v => Json.at path v
    | none => .object ms
  | .index n :: path, .array vs =>
    match vs[n]? with
    | some v => Json.at path v
    | none => .array vs
  | _, v => v

/-- How much of a value's literal form is shown at either end when it is too long. -/
def shortened (cs : List Char) : List Char :=
  if cs.length ≤ 50 then cs else cs.take 25 ++ "...".toList ++ cs.drop (cs.length - 24)

def PathPart.text : PathPart → String
  | .name s => s
  | .index n => String.ofList (Text.decimal n)

/-- Where the codes of defects are explained. -/
structure HelpPages where
  site : String
  release : String
  deriving DecidableEq, Repr

def HelpPages.current : HelpPages := ⟨"errors.pydantic.dev", "2.14"⟩

def HelpPages.page (h : HelpPages) (code : String) : String :=
  "https:" ++ "//" ++ h.site ++ "/" ++ h.release ++ "/v/" ++ code

/-! ## Refusals -/

/-- A value that a model refused, and its defects. -/
structure Refusal where
  model : String
  /-- The value was read from a JSON text. -/
  ofText : Bool
  input : Json
  defects : List Defect
  deriving Repr

namespace Refusal

def defectText (r : Refusal) (d : Defect) : String :=
  let place := if d.path.isEmpty then "" else ".".intercalate (d.path.map PathPart.text) ++ "\n"
  let found := r.input.at d.path
  let shown := String.ofList (shortened found.literalChars)
  let details := s!"[type={d.cause.code}, input_value={shown}, input_type={found.typeName}]"
  s!"{place}  {d.cause.message r.ofText} {details}\n" ++
    s!"    For further information visit {HelpPages.current.page d.cause.code}"

/-- The whole text of a refusal. -/
def text (r : Refusal) : String :=
  let count := r.defects.length
  let noun := if count = 1 then "error" else "errors"
  let head := s!"{count} validation {noun} for {r.model}"
  "\n".intercalate (head :: r.defects.map r.defectText)

/-- Check a value given as such. -/
def ofValue {α : Type} (model : String) (read : Json → Validated α) (v : Json) : Except Refusal α :=
  match read v with
  | .accepted a => .ok a
  | .refused ds => .error ⟨model, false, v, ds⟩

/-- Check a JSON text. The value shown for a text that is not JSON is the text itself. -/
def ofJsonText {α : Type} (model : String) (read : Json → Validated α) (s : String) :
    Except Refusal α :=
  match Validated.ofJsonText read s with
  | .accepted a => .ok a
  | .refused ds =>
    match Json.parse Json.readDepth s.toList with
    | .ok v => .error ⟨model, true, v, ds⟩
    | .error _ => .error ⟨model, true, .string s, ds⟩

end Refusal

end ScanAdapter
