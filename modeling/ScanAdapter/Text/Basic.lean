/-!
# Characters and pieces of text

Classes of characters are given by ranges of their numbers. Texts are trimmed of the characters of a class and cut
where a character stands, and numbers are written and read digit by digit, most significant digit first.
-/
namespace ScanAdapter.Text

/-- Whether one of the ranges holds a character. -/
def inRanges (ranges : List (Nat × Nat)) (c : Char) : Bool :=
  ranges.any fun r => r.1 ≤ c.toNat && c.toNat ≤ r.2

/-! ## Blank characters

Those with the Unicode property White_Space, and the somewhat larger class that also counts the four separators of
ASCII. -/

/-- A character with the property White_Space. -/
def isBlank (c : Char) : Bool :=
  let n := c.toNat
  (9 ≤ n && n ≤ 13) || n == 0x20 || n == 0x85 || n == 0xA0 || n == 0x1680 ||
  (0x2000 ≤ n && n ≤ 0x200A) || n == 0x2028 || n == 0x2029 || n == 0x202F || n == 0x205F || n == 0x3000

/-- A blank, or one of the ASCII separators of files, groups, records and units. -/
def isSpace (c : Char) : Bool := isBlank c || (0x1C ≤ c.toNat && c.toNat ≤ 0x1F)

/-- A text without the characters of a class at its end. -/
def trimEnd (drop : Char → Bool) (cs : List Char) : List Char := (cs.reverse.dropWhile drop).reverse

/-- A text without the characters of a class at either end. -/
def trim (drop : Char → Bool) (cs : List Char) : List Char := trimEnd drop (cs.dropWhile drop)

/-! ## Cutting

A text is cut at the first, at the last or at every place where a character stands; the character itself is in none
of the pieces. -/

/-- A text before and after the first `c`; without a `c` all of it comes before. -/
def cut (c : Char) (cs : List Char) : List Char × List Char :=
  (cs.takeWhile (· != c), (cs.dropWhile (· != c)).drop 1)

/-- A text before and after the last `c`; without a `c` all of it comes after. -/
def cutLast (c : Char) (cs : List Char) : Option (List Char) × List Char :=
  if cs.contains c then
    let (after, before) := cut c cs.reverse
    (some before.reverse, after.reverse)
  else (none, cs)

/-- A text cut at every `c`. -/
def splitAt (c : Char) : List Char → List (List Char)
  | [] => [[]]
  | d :: rest =>
    match splitAt c rest with
    | part :: parts => if d = c then [] :: part :: parts else (d :: part) :: parts
    | [] => [[d]]

/-! ## Decimal and hexadecimal digits

Only the ASCII digits count as digits here. -/

/-- The decimal digits of `n`, without leading zeros (`0` is one digit). -/
def decimal (n : Nat) : List Char := Nat.toDigits 10 n

/-- `n` in decimal with zeros in front up to `width` characters. -/
def padded (width n : Nat) : List Char :=
  let ds := decimal n
  List.replicate (width - ds.length) '0' ++ ds

/-- An integer in decimal, with a minus sign when it is negative. -/
def integer : Int → List Char
  | .ofNat n => decimal n
  | .negSucc n => '-' :: decimal (n + 1)

/-- The value of an ASCII digit (of any other character: unspecified). -/
def digitValue (c : Char) : Nat := c.toNat - '0'.toNat

/-- The number that a row of decimal digits stands for. -/
def valueOf (ds : List Char) : Nat := ds.foldl (fun n c => 10 * n + digitValue c) 0

/-- The leading digits of a text, and the rest. -/
def splitDigits (cs : List Char) : List Char × List Char :=
  (cs.takeWhile Char.isDigit, cs.dropWhile Char.isDigit)

/-- A number of exactly two digits at the front of a text. -/
def twoDigits : List Char → Option (Nat × List Char)
  | a :: b :: rest => if a.isDigit && b.isDigit then some (valueOf [a, b], rest) else none
  | _ => none

/-- The first six digits of a decimal fraction, as a number of millionths. -/
def millionths (ds : List Char) : Nat :=
  valueOf (ds.take 6 ++ List.replicate (6 - ds.length) '0')

/-- A lower-case hexadecimal digit. -/
def hexDigit (n : Nat) : Char :=
  if n < 10 then Char.ofNat (0x30 + n) else Char.ofNat (0x57 + n)

/-- The last `width` hexadecimal digits of `n`. -/
def hexPadded : (width n : Nat) → List Char
  | 0, _ => []
  | width + 1, n => hexPadded width (n / 16) ++ [hexDigit (n % 16)]

/-- The value of a hexadecimal digit of either case. -/
def hexValue? (c : Char) : Option Nat :=
  if '0' ≤ c ∧ c ≤ '9' then some (c.toNat - 0x30)
  else if 'a' ≤ c ∧ c ≤ 'f' then some (c.toNat - 0x57)
  else if 'A' ≤ c ∧ c ≤ 'F' then some (c.toNat - 0x37)
  else none

/-! ## Decimal digits of all scripts

The decimal digits of Unicode 14 come in rows of ten, one row or more for each script, from zero to nine. -/

/-- The zeros of the rows. -/
def digitZeros : List Nat :=
  [0x30, 0x660, 0x6F0, 0x7C0, 0x966, 0x9E6, 0xA66, 0xAE6, 0xB66, 0xBE6, 0xC66, 0xCE6, 0xD66, 0xDE6, 0xE50,
  0xED0, 0xF20, 0x1040, 0x1090, 0x17E0, 0x1810, 0x1946, 0x19D0, 0x1A80, 0x1A90, 0x1B50, 0x1BB0, 0x1C40,
  0x1C50, 0xA620, 0xA8D0, 0xA900, 0xA9D0, 0xA9F0, 0xAA50, 0xABF0, 0xFF10, 0x104A0, 0x10D30, 0x11066,
  0x110F0, 0x11136, 0x111D0, 0x112F0, 0x11450, 0x114D0, 0x11650, 0x116C0, 0x11730, 0x118E0, 0x11950,
  0x11C50, 0x11D50, 0x11DA0, 0x16A60, 0x16AC0, 0x16B50, 0x1D7CE, 0x1D7D8, 0x1D7E2, 0x1D7EC, 0x1D7F6,
  0x1E140, 0x1E2F0, 0x1E950, 0x1FBF0]

/-- A decimal digit of any script as the ASCII digit of its value; any other character as it is. -/
def toAsciiDigit (c : Char) : Char :=
  match digitZeros.find? fun z => z ≤ c.toNat && c.toNat < z + 10 with
  | some z => Char.ofNat (0x30 + (c.toNat - z))
  | none => c

end ScanAdapter.Text
