import ScanAdapter.Validation.Basic
import ScanAdapter.Time.Duration

/-!
# Lenient scalars

Numbers, moments and durations are accepted in more than one form: a truth value is one or zero, and a
text may stand for a number.
-/
namespace ScanAdapter

/-- Where a value was read. In a JSON text an integer too large for a floating-point number counts as
infinite; given as a value it does not count as a number. -/
inductive Origin
  | text
  | value
  deriving DecidableEq, Repr

namespace Validated

def float (origin : Origin) : Json → Validated Binary64
  | .number (.float x) => accepted x
  | .number (.int n) =>
    let x := Binary64.ofInt n
    if x.isFinite ∨ origin = .text then accepted x else refuse .notNumber
  | .bool b => accepted (.ofInt (if b then 1 else 0))
  | .string s =>
    match Number.float? s with
    | some x => accepted x
    | none => refuse .unreadableNumber
  | _ => refuse .notNumber

def integer : Json → Validated Int
  | .number (.int n) => accepted n
  | .number (.float x) =>
    if x.isFinite then
      match x.toInt? with
      | some n => if Number.fits64 n && Number.fits64 (-n) then accepted n else refuse .integerTooLarge
      | none => refuse .fractionalInteger
    else refuse .notFinite
  | .bool b => accepted (if b then 1 else 0)
  | .string s =>
    match Number.int? s with
    | .ok n => accepted n
    | .error .tooLong => refuse .integerTooLarge
    | .error .unreadable => refuse .unreadableInteger
  | _ => refuse .notInteger

/-- A count of seconds or milliseconds as a moment. -/
def countedMoment (n : Number) : Validated Moment :=
  match Moment.ofNumber n with
  | .ok m => accepted m
  | .error fault => refuse (.momentOutOfRange fault.complaint)

/-- In a JSON text an integer beyond 64 bits does not count as a moment; given as a value it is taken as the
floating-point number nearest to it, if there is one. -/
def moment (origin : Origin) : Json → Validated Moment
  | .number (.int n) =>
    if Number.fits64 n then countedMoment (.int n)
    else
      let x := Binary64.ofInt n
      if origin = .value ∧ x.isFinite then countedMoment (.float x) else refuse .notMoment
  | .number n => countedMoment n
  | .string s =>
    match Moment.ofString s with
    | .ok m => accepted m
    | .error .yearZero => refuse (.momentOutOfRange MomentFault.yearZero.complaint)
    | .error .malformed => refuse (.unreadableMoment (Moment.dateComplaint s.toList))
    | .error fault => refuse (.unreadableMoment fault.complaint)
  | _ => refuse .notMoment

/-- A span that was read, or the defect that it has. -/
def span : Except DurationFault Duration → Validated Duration
  | .ok d => accepted d
  | .error .unreadable => refuse .unreadableDuration
  | .error .beyondNumbers => refuse .notDuration
  | .error (.tooManyDays days) => refuse (.tooManyDays days)

def duration : Json → Validated Duration
  | .number n => span (Duration.ofNumber n)
  | .bool b => accepted (if b then .oneSecond else .zero)
  | .string s => span (Duration.ofString s)
  | _ => refuse .notDuration

end Validated

end ScanAdapter
