import ScanAdapter.Text.Basic

/-!
# UTF-8, read strictly

A stored value is a row of bytes. Reading it as text refuses every byte sequence that is not the
shortest form of a Unicode scalar, and says which bytes are at fault: the lead byte together with
the continuation bytes that were still acceptable after it.
-/
namespace ScanAdapter.Text

/-- Why a byte sequence is not UTF-8. -/
inductive Utf8Reason
  | invalidStart
  | invalidContinuation
  | unexpectedEnd
  deriving DecidableEq, Repr

def Utf8Reason.message : Utf8Reason → String
  | .invalidStart => "invalid start byte"
  | .invalidContinuation => "invalid continuation byte"
  | .unexpectedEnd => "unexpected end of data"

/-- The bytes at fault: `length` bytes from `position` on, the first of them `lead`. -/
structure Utf8Fault where
  position : Nat
  length : Nat
  lead : UInt8
  reason : Utf8Reason
  deriving DecidableEq, Repr

/-- One byte at fault is shown in hexadecimal, several by their range of positions. -/
def Utf8Fault.message (f : Utf8Fault) : String :=
  let place :=
    if f.length ≤ 1 then
      s!"byte 0x{String.ofList (hexPadded 2 f.lead.toNat)} in position {f.position}"
    else s!"bytes in position {f.position}-{f.position + f.length - 1}"
  s!"'utf-8' codec can't decode {place}: {f.reason.message}"

/-! ## Lead bytes -/

/-- What a lead byte asks for: how many continuation bytes, the bounds of the first of them, and
the bits that the lead byte itself contributes. -/
structure Lead where
  count : Nat
  low : Nat
  high : Nat
  bits : Nat
  deriving DecidableEq, Repr

/-- The bounds of the first continuation byte rule out overlong forms, surrogates and numbers above
the last scalar. -/
def Lead.ofByte? (b : Nat) : Option Lead :=
  if b < 0x80 then some ⟨0, 0x80, 0xBF, b⟩
  else if b < 0xC2 then none
  else if b < 0xE0 then some ⟨1, 0x80, 0xBF, b - 0xC0⟩
  else if b = 0xE0 then some ⟨2, 0xA0, 0xBF, 0⟩
  else if b = 0xED then some ⟨2, 0x80, 0x9F, 0xD⟩
  else if b < 0xF0 then some ⟨2, 0x80, 0xBF, b - 0xE0⟩
  else if b = 0xF0 then some ⟨3, 0x90, 0xBF, 0⟩
  else if b < 0xF4 then some ⟨3, 0x80, 0xBF, b - 0xF0⟩
  else if b = 0xF4 then some ⟨3, 0x80, 0x8F, 4⟩
  else none

/-- Read `count` continuation bytes, the first between `low` and `high`. On success: the scalar's
number and the bytes after it. On failure: how many continuation bytes were acceptable, and why the
next one was not. -/
def continuation : (count low high bits taken : Nat) → List UInt8 →
    Except (Nat × Utf8Reason) (Nat × List UInt8)
  | 0, _, _, bits, _, rest => .ok (bits, rest)
  | _ + 1, _, _, _, taken, [] => .error (taken, .unexpectedEnd)
  | count + 1, low, high, bits, taken, b :: rest =>
    if low ≤ b.toNat ∧ b.toNat ≤ high then
      continuation count 0x80 0xBF (bits * 64 + (b.toNat - 0x80)) (taken + 1) rest
    else .error (taken, .invalidContinuation)

theorem continuation_length {count low high bits taken : Nat} {bs rest : List UInt8} {n : Nat}
    (h : continuation count low high bits taken bs = .ok (n, rest)) : rest.length ≤ bs.length := by
  induction count generalizing low high bits taken bs with
  | zero => simp only [continuation, Except.ok.injEq, Prod.mk.injEq] at h; simp [h.2]
  | succ count ih =>
    cases bs with
    | nil => simp [continuation] at h
    | cons b bs =>
      simp only [continuation] at h
      split at h
      · have := ih h; simp only [List.length_cons]; omega
      · cases h

/-! ## Decoding and encoding -/

/-- Decode bytes that start at `position` of the whole. -/
def decodeFrom (position : Nat) (bytes : List UInt8) : Except Utf8Fault (List Char) :=
  match bytes with
  | [] => .ok []
  | b :: bs =>
    match Lead.ofByte? b.toNat with
    | none => .error ⟨position, 1, b, .invalidStart⟩
    | some lead =>
      match _h : continuation lead.count lead.low lead.high lead.bits 0 bs with
      | .error (taken, reason) => .error ⟨position, taken + 1, b, reason⟩
      | .ok (n, rest) =>
        match decodeFrom (position + 1 + lead.count) rest with
        | .error fault => .error fault
        | .ok cs => .ok (Char.ofNat n :: cs)
termination_by bytes.length
decreasing_by
  have := continuation_length _h
  simp only [List.length_cons]; omega

/-- The text that bytes stand for, or the first fault in them. -/
def decodeUtf8 (bytes : List UInt8) : Except Utf8Fault String :=
  (decodeFrom 0 bytes).map String.ofList

/-- The text that bytes stand for, with a replacement character for each fault. -/
def decodeLossy (bytes : List UInt8) : List Char :=
  match bytes with
  | [] => []
  | b :: bs =>
    match Lead.ofByte? b.toNat with
    | none => '\uFFFD' :: decodeLossy bs
    | some lead =>
      match _h : continuation lead.count lead.low lead.high lead.bits 0 bs with
      | .error (taken, _) => '\uFFFD' :: decodeLossy (bs.drop taken)
      | .ok (n, rest) => Char.ofNat n :: decodeLossy rest
termination_by bytes.length
decreasing_by
  · simp
  · simp only [List.length_drop, List.length_cons]; omega
  · have := continuation_length _h
    simp only [List.length_cons]; omega

/-- The bytes of a text. -/
def encodeUtf8 (s : String) : List UInt8 := s.toList.flatMap String.utf8EncodeChar

/-! ## Percent encoding

In a URL a byte may be written as a percent sign and two hexadecimal digits. The bytes of a run of ASCII characters
are read together as UTF-8; a percent sign without two digits stands for itself. -/

/-- The bytes of a run of ASCII characters. -/
def percentBytes : List Char → List UInt8
  | [] => []
  | '%' :: a :: b :: rest =>
    match hexValue? a, hexValue? b with
    | some high, some low => UInt8.ofNat (high * 16 + low) :: percentBytes rest
    | _, _ => UInt8.ofNat '%'.toNat :: percentBytes (a :: b :: rest)
  | c :: rest => UInt8.ofNat c.toNat :: percentBytes rest

/-- Decode a text; `run` holds the ASCII characters just before it, last first. -/
def percentDecodeFrom (run : List Char) : List Char → List Char
  | [] => decodeLossy (percentBytes run.reverse)
  | c :: rest =>
    if c.toNat < 0x80 then percentDecodeFrom (c :: run) rest
    else decodeLossy (percentBytes run.reverse) ++ c :: percentDecodeFrom [] rest

def percentDecode (cs : List Char) : List Char := percentDecodeFrom [] cs

end ScanAdapter.Text
