import ScanAdapter.Number.Binary64
import ScanAdapter.Number.Reading
import ScanAdapter.Text.Basic

/-!
# Durations

A span of time in whole microseconds, of either sign. It is read from a number of seconds or from one
of three notations: designators (`P1DT2H`), a clock (`12:34:56.5`), and days before a clock
(`2 days, 03:04:05`).
-/
namespace ScanAdapter

/-- A span whose days, rounded down, have nine digits at most. -/
structure Duration where
  microseconds : Int
  valid : -(999999999 * 86400000000) ≤ microseconds ∧ microseconds < 1000000000 * 86400000000
  deriving DecidableEq, Repr

/-- Why a value is no span: it has none of the forms, it is larger than any number, or it makes a span of
too many days. -/
inductive DurationFault
  | unreadable
  | beyondNumbers
  | tooManyDays (days : Int)
  deriving DecidableEq, Repr

namespace Duration

def second : Nat := 1000000

def minute : Nat := 60 * second

def hour : Nat := 60 * minute

def day : Nat := 24 * hour

def zero : Duration := ⟨0, by decide⟩

def oneSecond : Duration := ⟨1000000, by decide⟩

def oneHour : Duration := ⟨3600000000, by decide⟩

/-- The span of so many microseconds. -/
def ofMicroseconds (n : Int) : Except DurationFault Duration :=
  if h : -(999999999 * 86400000000) ≤ n ∧ n < 1000000000 * 86400000000 then .ok ⟨n, h⟩
  else .error (.tooManyDays (n.fdiv day))

/-- What is said of a span with too many days. Days that 32 bits do not hold are not even counted. -/
def overflowMessage (days : Int) : String :=
  if -2147483648 ≤ days ∧ days ≤ 2147483647 then
    s!"days={String.ofList (Text.integer days)}; must have magnitude <= 999999999"
  else "Python int too large to convert to C int"

/-- The whole seconds of a span. Its length in seconds is taken as a floating-point number, and the
fraction of that is dropped. -/
def wholeSeconds (d : Duration) : Int :=
  let (num, den) := Binary64.nearest d.microseconds.natAbs second
  if d.microseconds < 0 then -(num / den : Nat) else (num / den : Nat)

/-! ## Text -/

/-- Days, if any, then hours, minutes and seconds, and six digits of a second's fraction unless it is
zero. The days of a negative span are rounded down, so that the clock behind them runs forward. -/
def text (d : Duration) : String :=
  let days := d.microseconds.fdiv day
  let rest := (d.microseconds - days * day).toNat
  let clock := String.ofList (Text.decimal (rest / hour) ++
    ':' :: (Text.padded 2 (rest / minute % 60) ++ ':' :: Text.padded 2 (rest / second % 60)))
  let fraction := if rest % second = 0 then ""
    else String.ofList ('.' :: Text.padded 6 (rest % second))
  let noun := if days.natAbs = 1 then "day" else "days"
  let before := if days = 0 then "" else s!"{String.ofList (Text.integer days)} {noun}, "
  before ++ clock ++ fraction

/-! ## Sign and numbers -/

/-- The span of this size and sign. A size of a thousand million days is out of range in either
direction; a negative span may miss the range by less than a day. -/
def make (negative : Bool) (microseconds : Nat) : Except DurationFault Duration :=
  if 1000000000 * day ≤ microseconds then .error .unreadable
  else ofMicroseconds (if negative then -(microseconds : Int) else microseconds)

/-- A whole number of seconds. -/
def ofInt (n : Int) : Except DurationFault Duration :=
  if (Binary64.ofInt n).isFinite then make (n < 0) (n.natAbs * second) else .error .beyondNumbers

/-- A fraction of a second as microseconds: the product is rounded as floating-point numbers are, then taken
to the nearest whole number. -/
def microsecondsOf (num den : Nat) : Nat :=
  let (num, den) := Binary64.nearest (num * second) den
  roundHalfUp num den

def ofNumber : Number → Except DurationFault Duration
  | .int n => ofInt n
  | .float (.finite x) =>
    let (num, den) := x.fraction
    make x.negative (num / den * second + microsecondsOf (num % den) den)
  | .float _ => .error .unreadable

/-! ## Designators -/

/-- The sum of the numbers read so far. -/
structure Tally where
  days : Nat
  seconds : Nat
  microseconds : Nat
  deriving DecidableEq, Repr

/-- The whole sum. Its seconds, with those that the microseconds make, are kept in 32 bits. -/
def Tally.total? (t : Tally) : Option Nat :=
  if t.seconds + t.microseconds / second < 4294967296 then
    some (t.days * day + t.seconds * second + t.microseconds)
  else none

/-- The days that a designator counts, before the letter that begins the times. -/
def dayUnit? (c : Char) : Option Nat :=
  if c = 'Y' then some 365 else if c = 'M' then some 30
  else if c = 'W' then some 7 else if c = 'D' then some 1 else none

/-- The seconds that a designator counts, after that letter. -/
def secondUnit? (c : Char) : Option Nat :=
  if c = 'H' then some 3600 else if c = 'M' then some 60 else if c = 'S' then some 1 else none

/-- The fraction that digits after a point stand for, built digit by digit, with a rounding at each step.
From the three hundred and ninth digit on the fraction is lost. -/
def fractionOf (ds : List Char) : Nat × Nat :=
  if 308 < ds.length then (0, 1)
  else
    let times10 := fun (a : Nat × Nat) => Binary64.nearest (a.1 * 10) a.2
    let top := ds.foldl (fun a d =>
      let a := times10 a
      Binary64.nearest (a.1 + Text.digitValue d * a.2) a.2) (0, 1)
    let bottom := ds.foldl (fun a _ => times10 a) (1, 1)
    Binary64.nearest (top.1 * bottom.2) (top.2 * bottom.1)

/-- So many seconds or days, and the fraction of one. Of a fraction of days the seconds are rounded on the
way to the microseconds. -/
def Tally.add (t : Tally) (inTime : Bool) (unit whole : Nat) (fraction : Nat × Nat) : Tally :=
  let (num, den) := Binary64.nearest (fraction.1 * unit) fraction.2
  if inTime then
    { t with
      seconds := t.seconds + whole * unit + num / den
      microseconds := t.microseconds + microsecondsOf (num % den) den }
  else
    let (secs, unitOfSecs) := Binary64.nearest (num % den * 86400) den
    { days := t.days + whole * unit + num / den
      seconds := t.seconds + secs / unitOfSecs
      microseconds := t.microseconds + microsecondsOf (secs % unitOfSecs) unitOfSecs }

/-- A number and, if it has a point or a comma, the digits of its fraction. -/
def splitNumber (cs : List Char) : List Char × Option (List Char) × List Char :=
  let (whole, rest) := Text.splitDigits cs
  match rest with
  | c :: after =>
    if c = '.' ∨ c = ',' then
      let (part, rest) := Text.splitDigits after
      (whole, some part, rest)
    else (whole, none, rest)
  | [] => (whole, none, [])

/-- The numbers with their designators. Each follows the last at once, and only the last one may have a
fraction. `fuel` bounds the steps; `ended` tells whether there has been a fraction. -/
def designated? : (fuel : Nat) → (inTime ended : Bool) → Tally → List Char → Option Tally
  | 0, _, _, _, _ => none
  | _ + 1, _, _, t, [] => some t
  | fuel + 1, inTime, ended, t, c :: rest =>
    if c = 'T' then
      if inTime then none else designated? fuel true ended t rest
    else
      match splitNumber (c :: rest) with
      | ([], _, _) => none
      | (whole, part, u :: rest) =>
        match if inTime then secondUnit? u else dayUnit? u with
        | none => none
        | some unit =>
          if ended then none
          else
            let t := t.add inTime unit (Text.valueOf whole) (fractionOf (part.getD []))
            designated? fuel inTime part.isSome t rest
      | (_, _, []) => none

/-! ## Clocks -/

/-- The seconds of a clock and their fraction, to the end of the text. -/
def clockSeconds? : List Char → Option Nat
  | [] => some 0
  | ':' :: rest =>
    match Text.twoDigits rest with
    | none => none
    | some (s, rest) =>
      if 60 ≤ s then none
      else
        match rest with
        | [] => some (s * second)
        | c :: ds =>
          if (c = '.' ∨ c = ',') ∧ ds ≠ [] ∧ ds.all Char.isDigit then some (s * second + Text.millionths ds)
          else none
  | _ => none

/-- Hours, minutes, and perhaps seconds; five characters at least. There may be no hours, and there are at
most a hundred million days of them. What follows the hours is read to the sixth digit of a fraction, and
what stands behind that does not count. -/
def clock? (cs : List Char) : Option Nat :=
  let hours := cs.takeWhile (· != ':')
  match cs.dropWhile (· != ':') with
  | [] => none
  | _ :: rest =>
    if cs.length < 5 ∨ 10 < hours.length ∨ !hours.all Char.isDigit ∨ 2400000000 < Text.valueOf hours then none
    else
      match Text.twoDigits (rest.take 12) with
      | none => none
      | some (minutes, rest) =>
        if 60 ≤ minutes then none
        else (clockSeconds? rest).map (Text.valueOf hours * hour + minutes * minute + ·)

/-! ## Days -/

/-- The rest of a text, without `c` if that letter is its first in either case. -/
def dropLetter? (c : Char) : List Char → Option (List Char)
  | d :: rest => if d.toLower = c then some rest else none
  | [] => none

/-- The text after the word for days: `d`, `day` or `days`. The first letter may be in either case, and so may
the others, all alike. -/
def dropDayWord? (cs : List Char) : Option (List Char) :=
  (dropLetter? 'd' cs).map fun
    | 'a' :: 'y' :: 's' :: rest => rest
    | 'A' :: 'Y' :: 'S' :: rest => rest
    | 'a' :: 'y' :: rest => rest
    | 'A' :: 'Y' :: rest => rest
    | rest => rest

/-- Days, and perhaps a comma, a blank and a clock of less than a day. -/
def days? (cs : List Char) : Option Nat :=
  let (count, rest) := Text.splitDigits cs
  if count.isEmpty then none
  else
    match dropDayWord? ((dropLetter? ' ' rest).getD rest) with
    | none => none
    | some rest =>
      let rest := (dropLetter? ',' rest).getD rest
      let rest := (dropLetter? ' ' rest).getD rest
      let start := Text.valueOf count * day
      if rest.isEmpty then some start
      else (clock? rest).bind fun c => if c < day then some (start + c) else none

/-! ## Reading -/

/-- The size of a span in any of the notations. -/
def size? (cs : List Char) : Option Nat :=
  match cs with
  | 'P' :: rest =>
    if rest.length < 2 then none
    else (designated? (rest.length + 1) false false ⟨0, 0, 0⟩ rest).bind Tally.total?
  | cs => if cs.any (·.toLower == 'd') then days? cs else clock? cs

/-- The span that a text stands for; a sign may lead it. -/
def ofString (s : String) : Except DurationFault Duration :=
  let (negative, cs) := Number.splitSign s.toList
  match size? cs with
  | some size => make negative size
  | none => .error .unreadable

end Duration

end ScanAdapter
