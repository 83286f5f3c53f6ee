import ScanAdapter.Number.Binary64

/-!
# The shortest decimal of a binary64 number

A finite number is written with the fewest decimal digits that read back as the same number, and of
those digits the ones nearest to it. For each count of digits only two candidates matter: the points
of that decimal grid on either side of the number.
-/
namespace ScanAdapter

/-- The decimal `digits · 10^exponent`. -/
structure Decimal where
  digits : Nat
  exponent : Int
  deriving DecidableEq, Repr

namespace Decimal

/-- The same decimal without zeros at the end of its digits (`fuel` bounds their count). -/
def stripZeros : (fuel digits : Nat) → (exponent : Int) → Decimal
  | 0, digits, exponent => ⟨digits, exponent⟩
  | fuel + 1, digits, exponent =>
    if digits ≠ 0 ∧ digits % 10 = 0 then stripZeros fuel (digits / 10) (exponent + 1)
    else ⟨digits, exponent⟩

/-- The fraction `num / den` times `10^e`, again as a fraction. -/
def scaled (num den : Nat) (e : Int) : Nat × Nat :=
  if 0 ≤ e then (num * Nat.pow 10 e.toNat, den) else (num, den * Nat.pow 10 (-e).toNat)

/-- The place of the leading digit of `num / den` (both positive): the largest `p` with
`10^p ≤ num / den`. -/
def leadingPlace (num den : Nat) : Int :=
  let p : Int := (Text.decimal num).length - (Text.decimal den).length
  let (n, d) := scaled num den (-p)
  if d ≤ n then p else p - 1

/-- Whether the decimal reads back as `x`. -/
def readsBack (x : Finite) (d : Decimal) : Bool :=
  Binary64.ofDecimal x.negative d.digits d.exponent == .finite x

/-- The better of the two decimals of the grid `10^e` around `x`, among those that read back: the
nearer one, and at the same distance the one with the even last digit. -/
def onGrid? (x : Finite) (e : Int) : Option Decimal :=
  let (num, den) := scaled x.fraction.1 x.fraction.2 (-e)
  let below := num / den
  let down : Decimal := ⟨below, e⟩
  let up : Decimal := ⟨below + 1, e⟩
  match down.readsBack x, up.readsBack x with
  | true, true => some (if roundHalfEven num den = below then down else up)
  | true, false => some down
  | false, true => some up
  | false, false => none

/-- Every binary fraction is a decimal: `num / 2^k = num · 5^k / 10^k`. -/
def exact (x : Finite) : Decimal :=
  let k := Finite.onePlace - min x.scale Finite.onePlace
  ⟨x.fraction.1 * Nat.pow 5 k, -k⟩

/-- The shortest decimal that reads back as the size of `x`; zero is `0 · 10^0`. -/
def shortest (x : Finite) : Decimal :=
  if x.isZero then ⟨0, 0⟩
  else
    let place := leadingPlace x.fraction.1 x.fraction.2
    let found := (List.range 17).findSome? fun (k : Nat) => onGrid? x (place - k)
    let d := found.getD (exact x)
    stripZeros 20 d.digits d.exponent

end Decimal

/-! ## The text of a number

Where positional notation ends and how an exponent is written is a choice of the format, made in one record value for
each format that writes numbers. -/

/-- How floating-point numbers are written. A number whose leading digit stands at the decimal place
`p` is positional when `firstPlace ≤ p < endPlace`, and else has an exponent of at least
`exponentWidth` digits. -/
structure Layout where
  firstPlace : Int
  endPlace : Int
  exponentWidth : Nat
  infinity : String
  minusInfinity : String
  nan : String
  deriving DecidableEq, Repr

namespace Layout

/-- Positional digits always hold a point, with a digit on either side of it. -/
def positional (ds : List Char) (exponent : Int) : List Char :=
  if 0 ≤ exponent then ds ++ List.replicate exponent.toNat '0' ++ ['.', '0']
  else
    let after := (-exponent).toNat
    if after < ds.length then ds.take (ds.length - after) ++ '.' :: ds.drop (ds.length - after)
    else '0' :: '.' :: (List.replicate (after - ds.length) '0' ++ ds)

/-- One digit, the others after a point, and the place of the first digit as a signed exponent. -/
def scientific (width : Nat) (ds : List Char) (place : Int) : List Char :=
  let mantissa := if ds.length ≤ 1 then ds else ds.take 1 ++ '.' :: ds.drop 1
  mantissa ++ 'e' :: (if place < 0 then '-' else '+') :: Text.padded width place.natAbs

def decimal (l : Layout) (d : Decimal) : List Char :=
  let ds := Text.decimal d.digits
  let place : Int := ds.length - 1 + d.exponent
  if l.firstPlace ≤ place ∧ place < l.endPlace then positional ds d.exponent
  else scientific l.exponentWidth ds place

def finite (l : Layout) (x : Finite) : List Char :=
  (if x.negative then ['-'] else []) ++ l.decimal (.shortest x)

def float (l : Layout) : Binary64 → List Char
  | .finite x => l.finite x
  | .infinite negative => (if negative then l.minusInfinity else l.infinity).toList
  | .nan => l.nan.toList

def number (l : Layout) : Number → List Char
  | .int n => Text.integer n
  | .float x => l.float x

/-- The layout of numbers in messages: from `0.0001` below `1e+16`, and exponents of two digits. -/
def message : Layout := ⟨-4, 16, 2, "inf", "-inf", "nan"⟩

/-- The layout of numbers in JSON: from `0.00001` below `1e+16`; JSON has no number for what is not
finite, and writes null. -/
def json : Layout := ⟨-5, 16, 1, "null", "null", "null"⟩

end Layout

/-- The text of a number in a message. -/
def Number.text (n : Number) : String := String.ofList (Layout.message.number n)

end ScanAdapter
