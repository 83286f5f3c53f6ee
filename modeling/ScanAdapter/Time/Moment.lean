import ScanAdapter.Number.Binary64
import ScanAdapter.Number.Reading

/-!
# Moments

A date with a time of day to the microsecond, and perhaps its offset from universal time in whole
minutes. Moments are read from texts in the form of RFC 3339, some parts of which may be left out, and
from numbers of seconds or milliseconds since 1970.
-/
namespace ScanAdapter

/-! ## The calendar

Dates of the Gregorian calendar, and the count of days between a date and the first of January 1970. -/

namespace Calendar

def isLeap (year : Nat) : Bool := year % 4 == 0 && (year % 100 != 0 || year % 400 == 0)

/-- The length of a month; no day for a number that is no month. -/
def daysInMonth (year month : Nat) : Nat :=
  match month with
  | 2 => if isLeap year then 29 else 28
  | 4 | 6 | 9 | 11 => 30
  | 1 | 3 | 5 | 7 | 8 | 10 | 12 => 31
  | _ => 0

theorem daysInMonth_le (year month : Nat) : daysInMonth year month ≤ 31 := by
  unfold daysInMonth
  split <;> (try split) <;> omega

/-- The date that lies `days` after the first of January 1970, from the year zero on. Years are counted from
the first of March, so that a leap day ends its year, and in eras of four hundred years, which all have the
same number of days. -/
def dateOf (days : Int) : Nat × Nat × Nat :=
  let shifted := days + 719468
  let era := shifted.fdiv 146097
  let dayOfEra := (shifted - era * 146097).toNat
  let yearOfEra := (dayOfEra - dayOfEra / 1460 + dayOfEra / 36524 - dayOfEra / 146096) / 365
  let dayOfYear := dayOfEra - (365 * yearOfEra + yearOfEra / 4 - yearOfEra / 100)
  let monthFromMarch := (5 * dayOfYear + 2) / 153
  let day := dayOfYear - (153 * monthFromMarch + 2) / 5 + 1
  let month := if monthFromMarch < 10 then monthFromMarch + 3 else monthFromMarch - 9
  let marchYear := yearOfEra + era * 400
  ((if month ≤ 2 then marchYear + 1 else marchYear).toNat, month, day)

end Calendar

/-! ## Moments -/

/-- A moment. Without an offset it is a local time of no particular place. -/
structure Moment where
  year : Nat
  month : Nat
  day : Nat
  hour : Nat
  minute : Nat
  second : Nat
  microsecond : Nat
  offset : Option Int
  valid : (1 ≤ year ∧ year ≤ 9999) ∧ (1 ≤ month ∧ month ≤ 12) ∧
    (1 ≤ day ∧ day ≤ Calendar.daysInMonth year month) ∧
    (hour < 24 ∧ minute < 60 ∧ second < 60 ∧ microsecond < 1000000) ∧ (offset.getD 0).natAbs < 1440
  deriving DecidableEq, Repr

/-- Why a value is no moment: the text has no such form, or it names the year zero, or a number lies
outside the calendar or is none. -/
inductive MomentFault
  | malformed
  | yearZero
  | tooEarly
  | tooLate
  | notANumber
  deriving DecidableEq, Repr

def MomentFault.complaint : MomentFault → String
  | .malformed => "invalid datetime"
  | .yearZero => "year 0 is out of range"
  | .tooEarly => "dates before 0000 are not supported as unix timestamps"
  | .tooLate => "dates after 9999 are not supported as unix timestamps"
  | .notANumber => "NaN values not permitted"

namespace Moment

/-! ## Text -/

/-- Nothing for a local time, `Z` for universal time, else a sign, hours and minutes. -/
def offsetText : Option Int → List Char
  | none => []
  | some minutes =>
    if minutes = 0 then ['Z']
    else
      (if minutes < 0 then '-' else '+') ::
        (Text.padded 2 (minutes.natAbs / 60) ++ ':' :: Text.padded 2 (minutes.natAbs % 60))

/-- A moment in RFC 3339 form, with six digits of a second's fraction unless it is zero. -/
def chars (m : Moment) : List Char :=
  Text.padded 4 m.year ++ '-' :: (Text.padded 2 m.month ++ '-' :: (Text.padded 2 m.day ++ 'T' ::
    (Text.padded 2 m.hour ++ ':' :: (Text.padded 2 m.minute ++ ':' :: (Text.padded 2 m.second ++
      ((if m.microsecond = 0 then [] else '.' :: Text.padded 6 m.microsecond) ++
        offsetText m.offset))))))

def text (m : Moment) : String := String.ofList m.chars

/-! ## Reading a text -/

/-- The moment with these parts. Where only the year zero is wrong that is the fault. -/
def ofParts (year month day hour minute second microsecond : Nat) (offset : Option Int) :
    Except MomentFault Moment :=
  if h : (1 ≤ year ∧ year ≤ 9999) ∧ (1 ≤ month ∧ month ≤ 12) ∧
      (1 ≤ day ∧ day ≤ Calendar.daysInMonth year month) ∧
      (hour < 24 ∧ minute < 60 ∧ second < 60 ∧ microsecond < 1000000) ∧
      (offset.getD 0).natAbs < 1440 then
    .ok ⟨year, month, day, hour, minute, second, microsecond, offset, h⟩
  else if year = 0 ∧ 1 ≤ day ∧ day ≤ Calendar.daysInMonth year month ∧
      hour < 24 ∧ minute < 60 ∧ second < 60 ∧ (offset.getD 0).natAbs < 1440 then .error .yearZero
  else .error .malformed

/-- Four digits, a dash, two digits, a dash, two digits. -/
def readDate (cs : List Char) : Option ((Nat × Nat × Nat) × List Char) := do
  let (century, cs) ← Text.twoDigits cs
  let (year, cs) ← Text.twoDigits cs
  let '-' :: cs := cs | none
  let (month, cs) ← Text.twoDigits cs
  let '-' :: cs := cs | none
  let (day, cs) ← Text.twoDigits cs
  some ((century * 100 + year, month, day), cs)

/-- The fraction of a second after its seconds: a point or a comma and at least one digit. -/
def readFraction : List Char → Option (Nat × List Char)
  | c :: rest =>
    if c = '.' ∨ c = ',' then
      let (ds, rest) := Text.splitDigits rest
      if ds.isEmpty then none else some (Text.millionths ds, rest)
    else some (0, c :: rest)
  | [] => some (0, [])

/-- Hours and minutes, and perhaps seconds with a fraction. -/
def readClock (cs : List Char) : Option ((Nat × Nat × Nat × Nat) × List Char) := do
  let (hour, cs) ← Text.twoDigits cs
  let ':' :: cs := cs | none
  let (minute, cs) ← Text.twoDigits cs
  match cs with
  | ':' :: cs =>
    let (second, cs) ← Text.twoDigits cs
    let (microsecond, cs) ← readFraction cs
    some ((hour, minute, second, microsecond), cs)
  | cs => some ((hour, minute, 0, 0), cs)

/-- The signs of an offset that count as a minus: the hyphen, and the minus sign proper. -/
def isMinus (c : Char) : Bool := c == '-' || c == '\u2212'

/-- What ends a text: nothing, `Z`, or a sign, hours and minutes with or without a colon. -/
def readOffset : List Char → Option (Option Int)
  | [] => some none
  | ['Z'] => some (some 0)
  | ['z'] => some (some 0)
  | sign :: rest => do
    if sign ≠ '+' ∧ !isMinus sign then none
    let (hours, rest) ← Text.twoDigits rest
    let rest := match rest with
      | ':' :: rest => rest
      | rest => rest
    let (minutes, rest) ← Text.twoDigits rest
    if rest ≠ [] ∨ 60 ≤ minutes then none
    let total : Int := (hours * 60 + minutes : Nat)
    some (some (if isMinus sign then -total else total))

def isDateSeparator (c : Char) : Bool := c == 'T' || c == 't' || c == ' ' || c == '_'

/-- A date alone is its midnight, in local time. -/
def readChars (cs : List Char) : Except MomentFault Moment :=
  match readDate cs with
  | none => .error .malformed
  | some ((year, month, day), []) => ofParts year month day 0 0 0 0 none
  | some ((year, month, day), c :: rest) =>
    if isDateSeparator c then
      match readClock rest with
      | none => .error .malformed
      | some ((hour, minute, second, microsecond), rest) =>
        match readOffset rest with
        | none => .error .malformed
        | some offset => ofParts year month day hour minute second microsecond offset
    else .error .malformed

/-! ## Numbers of seconds -/

/-- Seconds since 1970 in universal time, from the year 0 to the year 9999, and up to a million
microseconds. -/
def ofUnix (seconds : Int) (microseconds : Nat) : Except MomentFault Moment :=
  if seconds < -62167219200 then .error .tooEarly
  else if 253402300799 < seconds then .error .tooLate
  else
    let seconds := seconds + (microseconds / 1000000 : Nat)
    let days := seconds.fdiv 86400
    let second := (seconds - days * 86400).toNat
    let (year, month, day) := Calendar.dateOf days
    ofParts year month day (second / 3600) (second / 60 % 60) (second % 60) (microseconds % 1000000) (some 0)

/-- A number beyond this size counts milliseconds and not seconds. -/
def watershed : Nat := 20000000000

def ofInt (n : Int) : Except MomentFault Moment :=
  if watershed < n.natAbs then ofUnix (n.fdiv 1000) ((n.fmod 1000).toNat * 1000) else ofUnix n 0

/-- A floating-point number is split into a whole number and a fraction, and the fraction is taken to the
nearest microsecond. Split and product are themselves rounded as floating-point numbers are. -/
def ofFinite (x : Finite) : Except MomentFault Moment :=
  let (whole, num, den) := x.floor
  let (num, den) := Binary64.nearest num den
  let (size, unit) := x.fraction
  if watershed * unit < size then
    ofUnix (whole.fdiv 1000) ((whole.fmod 1000).toNat * 1000 + roundHalfUp (num * 1000) den)
  else
    let (num, den) := Binary64.nearest (num * 1000000) den
    ofUnix whole (roundHalfUp num den)

def ofFloat : Binary64 → Except MomentFault Moment
  | .finite x => ofFinite x
  | .infinite negative => .error (if negative then .tooEarly else .tooLate)
  | .nan => .error .notANumber

def ofNumber : Number → Except MomentFault Moment
  | .int n => ofInt n
  | .float x => ofFloat x

/-- The number that a text counts with: an integer of 64 bits, or a finite decimal with a point. -/
def count? (cs : List Char) : Option Number :=
  let (negative, ds) := Number.splitSign cs
  if !ds.isEmpty && ds.all Char.isDigit then
    let n : Int := if negative then -(Text.valueOf ds : Nat) else (Text.valueOf ds : Nat)
    if Number.fits64 n then some (.int n) else none
  else if cs.contains '.' then
    match Number.standard? cs with
    | some (.finite x) => some (.float (.finite x))
    | _ => none
  else none

/-- A text is a moment in RFC 3339 form or a count of seconds. A count with a point that lies outside the
calendar is a malformed text. -/
def ofString (s : String) : Except MomentFault Moment :=
  match readChars s.toList with
  | .error .malformed =>
    match count? s.toList with
    | none => .error .malformed
    | some (.int n) => ofInt n
    | some (.float x) =>
      match ofFloat x with
      | .error .yearZero => .error .yearZero
      | .error _ => .error .malformed
      | r => r
  | r => r

/-! ## What is wrong with a date -/

/-- The first thing wrong with a text that should be a date and nothing more. -/
def dateComplaint (cs : List Char) : String :=
  let field := fun (place width : Nat) => (cs.drop place).take width
  if !(field 0 4).all Char.isDigit then "invalid character in year"
  else if cs.length ≤ 4 then "input is too short"
  else if cs[4]? ≠ some '-' then "invalid date separator, expected `-`"
  else if !(field 5 2).all Char.isDigit then "invalid character in month"
  else if cs.length ≤ 7 then "input is too short"
  else if cs[7]? ≠ some '-' then "invalid date separator, expected `-`"
  else if !(field 8 2).all Char.isDigit then "invalid character in day"
  else if cs.length < 10 then "input is too short"
  else
    let year := Text.valueOf (field 0 4)
    let month := Text.valueOf (field 5 2)
    let day := Text.valueOf (field 8 2)
    if month < 1 ∨ 12 < month then "month value is outside expected range of 1-12"
    else if day < 1 ∨ Calendar.daysInMonth year month < day then "day value is outside expected range"
    else "unexpected extra characters at the end of the input"

end Moment

end ScanAdapter
