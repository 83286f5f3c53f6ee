import ScanAdapter.Number.Binary64
import ScanAdapter.Text.Basic

/-!
# Numbers in texts

A text may stand for a number: blanks around it are dropped and a sign may lead. Two ways of reading are
kept apart. The lenient one counts ASCII digits only and lets underscores group the characters of a number;
the plain one counts the digits of every script and lets an underscore stand between two digits.
-/
namespace ScanAdapter.Number

/-! ## The standard form -/

/-- A leading sign, and the rest: whether the sign is a minus. -/
def splitSign : List Char → Bool × List Char
  | '-' :: rest => (true, rest)
  | '+' :: rest => (false, rest)
  | rest => (false, rest)

/-- An exponent that ends the text: `e` or `E`, a sign perhaps, and digits. No text at all is the
exponent zero. -/
def exponent? : List Char → Option Int
  | [] => some 0
  | c :: rest =>
    if c = 'e' ∨ c = 'E' then
      let (negative, ds) := splitSign rest
      if !ds.isEmpty && ds.all Char.isDigit then
        some (if negative then -(Text.valueOf ds : Nat) else (Text.valueOf ds : Nat))
      else none
    else none

/-- Digits with a point somewhere (or none) and an exponent (or none); at least one digit. -/
def decimal? (negative : Bool) (cs : List Char) : Option Binary64 :=
  let (whole, rest) := Text.splitDigits cs
  let (part, rest) := match rest with
    | '.' :: rest => Text.splitDigits rest
    | rest => ([], rest)
  if whole.isEmpty && part.isEmpty then none
  else (exponent? rest).map fun e =>
    Binary64.ofDecimal negative (Text.valueOf (whole ++ part)) (e - part.length)

/-- A sign perhaps, and a decimal or one of the words for infinity and for what is not a number. The
words may be in either case. -/
def standard? (cs : List Char) : Option Binary64 :=
  let (negative, cs) := splitSign cs
  let word := String.ofList (cs.map Char.toLower)
  if word = "nan" then some .nan
  else if word = "inf" ∨ word = "infinity" then some (.infinite negative)
  else decimal? negative cs

/-! ## The lenient reading -/

/-- Whether two underscores stand side by side. -/
def hasDoubleUnderscore : List Char → Bool
  | '_' :: '_' :: _ => true
  | _ :: rest => hasDoubleUnderscore rest
  | [] => false

/-- A text without the underscores that group its characters: there is one, none stands at either end, and
no two stand side by side. -/
def ungrouped? (cs : List Char) : Option (List Char) :=
  if cs.contains '_' && cs.head? != some '_' && cs.getLast? != some '_' && !hasDoubleUnderscore cs then
    some (cs.filter (· != '_'))
  else none

/-- The floating-point number that a text stands for. A text with blanks around it has no groups. -/
def float? (s : String) : Option Binary64 :=
  (standard? (Text.trim Text.isBlank s.toList)).or ((ungrouped? s.toList).bind standard?)

/-- Why a text stands for no integer. -/
inductive IntegerFault
  | unreadable
  | tooLong
  deriving DecidableEq, Repr

/-- The size of a whole number in its canonical form: zero, or digits that no zero leads. -/
def canonicalSize? : List Char → Option Nat
  | ['0'] => some 0
  | d :: ds => if d != '0' && (d :: ds).all Char.isDigit then some (Text.valueOf (d :: ds)) else none
  | [] => none

/-- A leading minus, and the rest. -/
def splitMinus : List Char → List Char × List Char
  | '-' :: rest => (['-'], rest)
  | rest => ([], rest)

/-- A whole number in its canonical form, a minus before it perhaps, of no more digits than an integer
may have. -/
def canonical? (cs : List Char) : Option Int :=
  let (minus, ds) := splitMinus cs
  if maxDigits < ds.length then none
  else (canonicalSize? ds).map fun n => if minus.isEmpty then (n : Int) else -(n : Int)

/-- Whether a text begins with a whole number that no zero leads and that has too many digits. -/
def isTooLong (cs : List Char) : Bool :=
  let (_, ds) := splitMinus cs
  ds.head? != some '0' && maxDigits < (ds.takeWhile Char.isDigit).length

/-- A number from its first digit that is not a zero on, or from a minus between its zeros and its digits;
`last` is the zero or underscore just before. A number that has nothing but zeros before its point, or at
all, keeps the last of them. -/
def pastZeros? (last : Char) : List Char → Option (List Char)
  | [] => some [last]
  | c :: rest =>
    if c = '0' ∨ c = '_' then pastZeros? c rest
    else if c = '.' then some (last :: c :: rest)
    else if c.isDigit ∨ c = '-' then some (c :: rest)
    else none

/-- A number without zeros in front. -/
def withoutZeros? : List Char → Option (List Char)
  | [] => none
  | c :: rest =>
    if c = '0' then pastZeros? c rest
    else if c.isDigit ∨ c = '-' then some (c :: rest)
    else none

/-- A number without its plus sign; a minus may not follow the plus. -/
def withoutPlus? : List Char → Option (List Char)
  | '+' :: '-' :: _ => none
  | '+' :: rest => some rest
  | cs => some cs

/-- A number without its fraction, if that is a row of zeros. -/
def withoutZeroFraction (cs : List Char) : List Char :=
  match cs.dropWhile (· != '.') with
  | _ :: part => if !part.isEmpty && part.all (· == '0') then cs.takeWhile (· != '.') else cs
  | [] => cs

/-- A number without its plus, and without zeros in front, a fraction of zeros and groups behind its
minus. -/
def cleaned? (cs : List Char) : Option (List Char) :=
  (withoutPlus? cs).bind fun cs =>
    let (minus, ds) := splitMinus cs
    (withoutZeros? ds).map fun ds =>
      let ds := withoutZeroFraction ds
      minus ++ (ungrouped? ds).getD ds

/-- The integer that a text stands for: in its canonical form, or with a plus, zeros in front, a fraction
of zeros, or groups. -/
def int? (s : String) : Except IntegerFault Int :=
  let cs := Text.trim Text.isBlank s.toList
  if isTooLong cs then .error .tooLong
  else
    match (canonical? cs).or ((cleaned? cs).bind canonical?) with
    | some n => .ok n
    | none => .error .unreadable

/-! ## The plain reading -/

/-- Drop each underscore that stands between two digits; any other one stays and spoils the number.
`afterDigit` tells whether a digit came just before. -/
def joinDigits : (afterDigit : Bool) → List Char → List Char
  | _, [] => []
  | afterDigit, '_' :: c :: rest =>
    if afterDigit && c.isDigit then c :: joinDigits true rest
    else '_' :: joinDigits false (c :: rest)
  | _, c :: rest => c :: joinDigits c.isDigit rest

/-- A text without blanks around it, its digits as ASCII digits and joined. -/
def plainChars (s : String) : List Char :=
  joinDigits false ((Text.trim Text.isBlank s.toList).map Text.toAsciiDigit)

/-- The integer that a text stands for in the plain reading: nothing but digits follows the sign. -/
def plainInt? (s : String) : Option Int :=
  let (negative, ds) := splitSign (plainChars s)
  if !ds.isEmpty && ds.all Char.isDigit && ds.length ≤ maxDigits then
    some (if negative then -(Text.valueOf ds : Nat) else (Text.valueOf ds : Nat))
  else none

/-- The floating-point number that a text stands for in the plain reading. -/
def plainFloat? (s : String) : Option Binary64 := standard? (plainChars s)

end ScanAdapter.Number
