import ScanAdapter.Text.Utf8

/-!
# The bytes of a text decode to the text

A character has one to four bytes. Its lead byte tells how many continuation bytes come after it and what the
first of them may be, and the bits of all bytes together make the character's number again.
-/
namespace ScanAdapter.Text

/-! ## Lead bytes -/

theorem lead_one {v : Nat} (h : v < 0x80) : Lead.ofByte? v = some ⟨0, 0x80, 0xBF, v⟩ := if_pos h

theorem lead_two {v : Nat} (h : 0x80 ≤ v) (h' : v < 0x800) :
    Lead.ofByte? (v / 64 + 0xC0) = some ⟨1, 0x80, 0xBF, v / 64⟩ := by
  unfold Lead.ofByte?
  rw [if_neg (by omega), if_neg (by omega), if_pos (by omega), Nat.add_sub_cancel]

/-- A first byte of three, with the second byte in the bounds that it sets. -/
theorem lead_three {v : Nat} (h : 0x800 ≤ v) (h' : v < 0x10000) (hs : v < 0xD800 ∨ 0xDFFF < v) :
    ∃ low high, Lead.ofByte? (v / 4096 + 0xE0) = some ⟨2, low, high, v / 4096⟩ ∧
      low ≤ v / 64 % 64 + 0x80 ∧ v / 64 % 64 + 0x80 ≤ high := by
  unfold Lead.ofByte?
  rw [if_neg (by omega), if_neg (by omega), if_neg (by omega), Nat.add_sub_cancel]
  by_cases hfirst : v / 4096 = 0
  · rw [hfirst]
    exact ⟨0xA0, 0xBF, rfl, by omega, by omega⟩
  · by_cases hsurrogate : v / 4096 = 0xD
    · rw [hsurrogate]
      exact ⟨0x80, 0x9F, rfl, by omega, by omega⟩
    · rw [if_neg (by omega), if_neg (by omega), if_pos (by omega)]
      exact ⟨0x80, 0xBF, rfl, by omega, by omega⟩

/-- A first byte of four, with the second byte in the bounds that it sets. -/
theorem lead_four {v : Nat} (h : 0x10000 ≤ v) (h' : v < 0x110000) :
    ∃ low high, Lead.ofByte? (v / 262144 + 0xF0) = some ⟨3, low, high, v / 262144⟩ ∧
      low ≤ v / 4096 % 64 + 0x80 ∧ v / 4096 % 64 + 0x80 ≤ high := by
  unfold Lead.ofByte?
  rw [if_neg (by omega), if_neg (by omega), if_neg (by omega), if_neg (by omega), if_neg (by omega),
    if_neg (by omega), Nat.add_sub_cancel]
  by_cases hfirst : v / 262144 = 0
  · rw [hfirst]
    exact ⟨0x90, 0xBF, rfl, by omega, by omega⟩
  · rw [if_neg (by omega)]
    by_cases hlast : v / 262144 = 4
    · rw [hlast]
      exact ⟨0x80, 0x8F, rfl, by omega, by omega⟩
    · rw [if_pos (by omega)]
      exact ⟨0x80, 0xBF, rfl, by omega, by omega⟩

/-! ## Characters -/

theorem continuation_cons {count low high bits taken x : Nat} {rest : List UInt8} (hx : x < 64)
    (hlow : low ≤ x + 0x80) (hhigh : x + 0x80 ≤ high) :
    continuation (count + 1) low high bits taken (UInt8.ofNat (x + 0x80) :: rest) =
      continuation count 0x80 0xBF (bits * 64 + x) (taken + 1) rest := by
  have hbyte : (UInt8.ofNat (x + 0x80)).toNat = x + 0x80 := UInt8.toNat_ofNat_of_lt' (show x + 0x80 < 256 by omega)
  rw [continuation, hbyte, if_pos ⟨hlow, hhigh⟩, Nat.add_sub_cancel]

/-- A lead byte with all its continuation bytes. -/
theorem decodeFrom_lead {b position n : Nat} {lead : Lead} {bs rest : List UInt8} {cs : List Char} (hb : b < 256)
    (hlead : Lead.ofByte? b = some lead)
    (hbytes : continuation lead.count lead.low lead.high lead.bits 0 bs = .ok (n, rest))
    (hrest : decodeFrom (position + 1 + lead.count) rest = .ok cs) :
    decodeFrom position (UInt8.ofNat b :: bs) = .ok (Char.ofNat n :: cs) := by
  have hbyte : (UInt8.ofNat b).toNat = b := UInt8.toNat_ofNat_of_lt' hb
  rw [decodeFrom, hbyte, hlead]
  dsimp only
  split
  · rename_i herr
    rw [hbytes] at herr
    cases herr
  · rename_i hok
    rw [hbytes] at hok
    cases hok
    rw [hrest]

/-- The bytes of a character by the size of its number. -/
theorem utf8EncodeChar_eq (c : Char) : String.utf8EncodeChar c =
    if c.toNat ≤ 0x7F then [UInt8.ofNat c.toNat]
    else if c.toNat ≤ 0x7FF then [UInt8.ofNat (c.toNat / 64 % 0x20 + 0xC0), UInt8.ofNat (c.toNat % 0x40 + 0x80)]
    else if c.toNat ≤ 0xFFFF then [UInt8.ofNat (c.toNat / 4096 % 0x10 + 0xE0),
      UInt8.ofNat (c.toNat / 64 % 0x40 + 0x80), UInt8.ofNat (c.toNat % 0x40 + 0x80)]
    else [UInt8.ofNat (c.toNat / 262144 % 0x08 + 0xF0), UInt8.ofNat (c.toNat / 4096 % 0x40 + 0x80),
      UInt8.ofNat (c.toNat / 64 % 0x40 + 0x80), UInt8.ofNat (c.toNat % 0x40 + 0x80)] := rfl

theorem decodeFrom_encodeChar (c : Char) (position : Nat) {rest : List UInt8} {cs : List Char}
    (hrest : ∀ position, decodeFrom position rest = .ok cs) :
    decodeFrom position (String.utf8EncodeChar c ++ rest) = .ok (c :: cs) := by
  have hvalid : c.toNat < 0xD800 ∨ 0xDFFF < c.toNat ∧ c.toNat < 0x110000 := c.valid
  rw [utf8EncodeChar_eq, show c :: cs = Char.ofNat c.toNat :: cs by rw [Char.ofNat_toNat]]
  generalize c.toNat = v at *
  split
  · exact decodeFrom_lead (by omega) (lead_one (by omega)) rfl (hrest _)
  split
  · rw [Nat.mod_eq_of_lt (show v / 64 < 0x20 by omega), List.cons_append, List.cons_append]
    refine decodeFrom_lead (by omega) (lead_two (by omega) (by omega)) ?_ (hrest _)
    have hbits : v / 64 * 64 + v % 64 = v := Nat.div_add_mod' v 64
    dsimp only
    rw [continuation_cons (by omega) (by omega) (by omega), continuation, hbits]
    rfl
  split
  · obtain ⟨low, high, hlead, hlow, hhigh⟩ := @lead_three v (by omega) (by omega) (by omega)
    rw [Nat.mod_eq_of_lt (show v / 4096 < 0x10 by omega), List.cons_append, List.cons_append, List.cons_append]
    refine decodeFrom_lead (by omega) hlead ?_ (hrest _)
    have hbits : (v / 4096 * 64 + v / 64 % 64) * 64 + v % 64 = v := by omega
    dsimp only
    rw [continuation_cons (by omega) hlow hhigh, continuation_cons (by omega) (by omega) (by omega), continuation,
      hbits]
    rfl
  · obtain ⟨low, high, hlead, hlow, hhigh⟩ := @lead_four v (by omega) (by omega)
    rw [Nat.mod_eq_of_lt (show v / 262144 < 0x08 by omega), List.cons_append, List.cons_append, List.cons_append,
      List.cons_append]
    refine decodeFrom_lead (by omega) hlead ?_ (hrest _)
    have hbits : ((v / 262144 * 64 + v / 4096 % 64) * 64 + v / 64 % 64) * 64 + v % 64 = v := by omega
    dsimp only
    rw [continuation_cons (by omega) hlow hhigh, continuation_cons (by omega) (by omega) (by omega),
      continuation_cons (by omega) (by omega) (by omega), continuation, hbits]
    rfl

theorem decodeFrom_flatMap (cs : List Char) (position : Nat) :
    decodeFrom position (cs.flatMap String.utf8EncodeChar) = .ok cs := by
  induction cs generalizing position with
  | nil => rw [List.flatMap_nil, decodeFrom]
  | cons c cs ih =>
    rw [List.flatMap_cons]
    exact decodeFrom_encodeChar c position ih

/-- **The bytes of a text are read as the text.** -/
theorem decodeUtf8_encodeUtf8 (s : String) : decodeUtf8 (encodeUtf8 s) = .ok s := by
  rw [decodeUtf8, encodeUtf8, decodeFrom_flatMap]
  simp [Except.map]

end ScanAdapter.Text
