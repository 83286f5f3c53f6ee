import ScanAdapter.Text.Basic

/-!
# Binary64 numbers

The floating-point numbers of 64 bits, as exact values. A finite number is `significand · 2^scale`
units, a unit being `2^-1074`, the smallest positive number of the format. Every conversion into the
format rounds once, to the nearest number, a tie to the even significand.
-/
namespace ScanAdapter

/-- A finite number: `± significand · 2^scale` units of `2^-1074`. The significand has 53 bits, fewer
only at the smallest scale, so each value has one representation (zero has two, by its sign). -/
structure Finite where
  negative : Bool
  significand : Nat
  scale : Nat
  canonical : significand < Nat.pow 2 53 ∧ (Nat.pow 2 52 ≤ significand ∨ scale = 0) ∧ scale ≤ 2045
  deriving DecidableEq, Repr

inductive Binary64
  | finite (x : Finite)
  | infinite (negative : Bool)
  | nan
  deriving DecidableEq, Repr

/-- `a / d` to the nearest whole number, a tie to the even one. -/
def roundHalfEven (a d : Nat) : Nat :=
  let q := a / d
  let r := a % d
  if 2 * r < d then q
  else if d < 2 * r then q + 1
  else if q % 2 = 0 then q else q + 1

/-- `a / d` to the nearest whole number, a tie to the greater one. -/
def roundHalfUp (a d : Nat) : Nat := (2 * a + d) / (2 * d)

namespace Finite

def zero (negative : Bool) : Finite := ⟨negative, 0, 0, by decide⟩

/-- The size of a number in units of `2^-1074`. -/
def units (x : Finite) : Nat := x.significand * Nat.pow 2 x.scale

/-- The scale at which a significand counts whole ones. It stays folded where it is not asked for, and so do
the digits of its power of two. -/
@[irreducible] def onePlace : Nat := 1074

/-- The size of a number as a fraction whose denominator is a power of two. -/
def fraction (x : Finite) : Nat × Nat :=
  let shared := min x.scale onePlace
  (x.significand * Nat.pow 2 (x.scale - shared), Nat.pow 2 (onePlace - shared))

def isZero (x : Finite) : Bool := x.significand == 0

/-- A number as its largest integer that is not above it, and the fraction by which it is above that. -/
def floor (x : Finite) : Int × Nat × Nat :=
  let (num, den) := x.fraction
  let signed : Int := if x.negative then -num else num
  (signed.fdiv den, (signed.fmod den).toNat, den)

end Finite

namespace Binary64

/-- The number with this significand and scale, or infinity when it is out of range. -/
def make (negative : Bool) (significand scale : Nat) : Binary64 :=
  if h : significand < Nat.pow 2 53 ∧ (Nat.pow 2 52 ≤ significand ∨ scale = 0) ∧ scale ≤ 2045 then
    .finite ⟨negative, significand, scale, h⟩
  else .infinite negative

/-- The number nearest to `± num / den` (`den` positive). -/
@[irreducible] def ofRatio (negative : Bool) (num den : Nat) : Binary64 :=
  let a := Nat.pow 2 Finite.onePlace * num
  let scale := (a / den).log2 - 52
  let significand := roundHalfEven a (den * Nat.pow 2 scale)
  if significand < Nat.pow 2 53 then make negative significand scale
  else make negative (Nat.pow 2 52) (scale + 1)

/-- The number nearest to `± digits · 10^exponent`. Beyond the three hundred and tenth decimal place
on either side of the range the answer is known without computing the power. -/
def ofDecimal (negative : Bool) (digits : Nat) (exponent : Int) : Binary64 :=
  let magnitude : Int := (Text.decimal digits).length + exponent
  if digits = 0 ∨ magnitude < -330 then .finite (.zero negative)
  else if 310 < magnitude then .infinite negative
  else if 0 ≤ exponent then ofRatio negative (digits * Nat.pow 10 exponent.toNat) 1
  else ofRatio negative digits (Nat.pow 10 (-exponent).toNat)

/-- The number nearest to an integer; zero is positive. -/
def ofInt (n : Int) : Binary64 := ofDecimal (n < 0) n.natAbs 0

/-- The number nearest to a fraction, itself as a fraction. A fraction beyond the range stays as it is. -/
def nearest (num den : Nat) : Nat × Nat :=
  match ofRatio false num den with
  | .finite x => x.fraction
  | _ => (num, den)

/-- Above zero (infinity is, and what is not a number is not). -/
def isPositive : Binary64 → Bool
  | .finite x => !x.negative && !x.isZero
  | .infinite negative => !negative
  | .nan => false

/-- Zero or below (what is not a number is neither this nor positive). -/
def isAtMostZero : Binary64 → Bool
  | .finite x => x.negative || x.isZero
  | .infinite negative => negative
  | .nan => false

def isFinite : Binary64 → Bool
  | .finite _ => true
  | _ => false

/-- The integer that a number equals, if it equals one. -/
def toInt? : Binary64 → Option Int
  | .finite x =>
    let (num, den) := x.fraction
    if num % den = 0 then some (if x.negative then -(num / den : Nat) else (num / den : Nat)) else none
  | _ => none

end Binary64

/-- A number as data writes it: an integer of any size, or a floating-point number. -/
inductive Number
  | int (n : Int)
  | float (x : Binary64)
  deriving DecidableEq, Repr

/-- How many digits the text of an integer may have. -/
def Number.maxDigits : Nat := 4300

/-- An integer that 64 bits can hold, one of them for the sign. -/
def Number.fits64 (n : Int) : Bool := -9223372036854775808 ≤ n && n ≤ 9223372036854775807

/-- Zero or below. -/
def Number.isAtMostZero : Number → Bool
  | .int n => n ≤ 0
  | .float x => x.isAtMostZero

end ScanAdapter
