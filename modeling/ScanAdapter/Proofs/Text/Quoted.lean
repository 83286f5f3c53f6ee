import ScanAdapter.Text.Quoted
import ScanAdapter.Proofs.Text.Digits

/-!
# Quoted texts are read back

Between its quotes a text stays on one line and shows as it is (`isOneLine_quotedChars`), for all that is in it is
printable, and a printable character is neither a control nor a line break.

It also keeps what it says. `readQuoted?` goes through it character by character and never looks at the text that
was quoted: whichever quote was chosen, it finds the closing one among those that are escaped, and brings back the
text (`readQuoted?_quotedChars`). So no two texts are quoted alike (`quoted_injective`).
-/
namespace ScanAdapter.Text

/-! ## One line -/

/-- What Unicode counts as a control. -/
def IsControl (c : Char) : Prop := c.toNat < 0x20 ∨ 0x7F ≤ c.toNat ∧ c.toNat < 0xA0

/-- The characters that end a line. -/
def lineBreaks : List Char :=
  ['\n', '\x0b', '\x0c', '\r', '\x1c', '\x1d', '\x1e', '\x85', '\u2028', '\u2029']

/-- The characters stay on one line, and each of them shows as itself. -/
def IsOneLine (cs : List Char) : Prop := ∀ c ∈ cs, isPrintable c = true ∧ ¬ IsControl c ∧ c ∉ lineBreaks

theorem unprintable_spares_ascii : ∀ r ∈ unprintable, r.2 < 0x20 ∨ 0x7F ≤ r.1 := by decide +kernel

theorem isPrintable_of_ascii {c : Char} (hleast : 0x20 ≤ c.toNat) (hmost : c.toNat < 0x7F) : isPrintable c = true := by
  simp only [isPrintable, inRanges, Bool.not_eq_true', List.any_eq_false, Bool.and_eq_true, decide_eq_true_eq]
  intro r hr hrange
  have hspares := unprintable_spares_ascii r hr
  omega

theorem isPrintable_backslash : isPrintable '\\' = true := isPrintable_of_ascii (by decide) (by decide)

theorem not_isPrintable_of_mem {r : Nat × Nat} {c : Char} (hr : r ∈ unprintable) (hleast : r.1 ≤ c.toNat)
    (hmost : c.toNat ≤ r.2) : ¬ isPrintable c = true := by
  simp only [isPrintable, inRanges, Bool.not_eq_true', List.any_eq_false, Bool.and_eq_true, decide_eq_true_eq]
  intro hnone
  exact hnone r hr ⟨hleast, hmost⟩

theorem not_isControl_of_isPrintable {c : Char} (h : isPrintable c = true) : ¬ IsControl c := by
  have hlow : (0x0, 0x1F) ∈ unprintable := .head _
  have hhigh : (0x7F, 0xA0) ∈ unprintable := .tail _ (.head _)
  rintro (hmost | ⟨hleast, hmost⟩)
  · exact not_isPrintable_of_mem hlow (Nat.zero_le _) (Nat.le_of_lt_succ hmost) h
  · exact not_isPrintable_of_mem hhigh hleast hmost.le h

theorem unprintable_has_separators : ∃ r ∈ unprintable, r.1 ≤ 0x2028 ∧ 0x2029 ≤ r.2 := by decide +kernel

/-- Lines end at controls and at two separators. -/
theorem not_mem_lineBreaks_of_isPrintable {c : Char} (h : isPrintable c = true) : c ∉ lineBreaks := by
  have hbreaks : ∀ c ∈ lineBreaks, IsControl c ∨ 0x2028 ≤ c.toNat ∧ c.toNat ≤ 0x2029 := by
    simp [lineBreaks, IsControl]
  intro hc
  rcases hbreaks c hc with hcontrol | ⟨hleast, hmost⟩
  · exact not_isControl_of_isPrintable h hcontrol
  · obtain ⟨r, hr, hfirst, hlast⟩ := unprintable_has_separators
    exact not_isPrintable_of_mem hr (hfirst.trans hleast) (hmost.trans hlast) h

theorem isOneLine_iff {cs : List Char} : IsOneLine cs ↔ ∀ c ∈ cs, isPrintable c = true := by
  constructor
  · intro h c hc
    exact (h c hc).1
  · intro h c hc
    exact ⟨h c hc, not_isControl_of_isPrintable (h c hc), not_mem_lineBreaks_of_isPrintable (h c hc)⟩

theorem isOneLine_append {cs ds : List Char} : IsOneLine (cs ++ ds) ↔ IsOneLine cs ∧ IsOneLine ds :=
  List.forall_mem_append

/-- One of the two characters that a text is quoted with. -/
def IsQuote (c : Char) : Prop := c = '\'' ∨ c = '"'

instance (c : Char) : Decidable (IsQuote c) := inferInstanceAs (Decidable (_ ∨ _))

theorem isQuote_quoteFor (cs : List Char) : IsQuote (quoteFor cs) := by
  unfold quoteFor
  split
  · exact .inr rfl
  · exact .inl rfl

theorem IsQuote.isPrintable {quote : Char} (h : IsQuote quote) : isPrintable quote = true := by
  rcases h with rfl | rfl <;> exact isPrintable_of_ascii (by decide) (by decide)

theorem isPrintable_hexDigit : ∀ d < 16, isPrintable (hexDigit d) = true := by
  intro d hd
  have hrange : ∀ d < 16, 0x20 ≤ (hexDigit d).toNat ∧ (hexDigit d).toNat < 0x7F := by decide
  exact isPrintable_of_ascii (hrange d hd).1 (hrange d hd).2

theorem isPrintable_of_mem_numericEscape {n : Nat} {c : Char} (h : c ∈ numericEscape n) : isPrintable c = true := by
  have hdigits : ∀ (letter : Char) (width : Nat), 0x20 ≤ letter.toNat → letter.toNat < 0x7F →
      c ∈ '\\' :: letter :: hexPadded width n → isPrintable c = true := by
    intro letter width hleast hmost hc
    rcases List.mem_cons.1 hc with rfl | hc
    · exact isPrintable_backslash
    rcases List.mem_cons.1 hc with rfl | hc
    · exact isPrintable_of_ascii hleast hmost
    · obtain ⟨d, hd, rfl⟩ := exists_digit_of_mem_hexPadded hc
      exact isPrintable_hexDigit d hd
  unfold numericEscape at h
  split at h
  · exact hdigits 'x' 2 (by decide) (by decide) h
  split at h
  · exact hdigits 'u' 4 (by decide) (by decide) h
  · exact hdigits 'U' 8 (by decide) (by decide) h

/-- Whatever character is escaped, what is written for it is printable. -/
theorem isPrintable_of_mem_escapeChar {quote c d : Char} (hquote : IsQuote quote) (h : d ∈ escapeChar quote c) :
    isPrintable d = true := by
  have hpair : ∀ e : Char, isPrintable e = true → d ∈ ['\\', e] → isPrintable d = true := by
    intro e he hd
    simp only [List.mem_cons, List.not_mem_nil, or_false] at hd
    rcases hd with rfl | rfl
    · exact isPrintable_backslash
    · exact he
  unfold escapeChar at h
  split at h
  · rename_i hc
    refine hpair c ?_ h
    rcases hc with rfl | rfl
    · exact hquote.isPrintable
    · exact isPrintable_backslash
  split at h
  · exact hpair 'n' (isPrintable_of_ascii (by decide) (by decide)) h
  split at h
  · exact hpair 'r' (isPrintable_of_ascii (by decide) (by decide)) h
  split at h
  · exact hpair 't' (isPrintable_of_ascii (by decide) (by decide)) h
  split at h
  · rename_i hc
    rwa [List.mem_singleton.1 h]
  · exact isPrintable_of_mem_numericEscape h

/-- **A quoted text is one line of printable characters**, whatever was quoted. -/
theorem isOneLine_quotedChars (cs : List Char) : IsOneLine (quotedChars cs) := by
  have hquote := isQuote_quoteFor cs
  refine isOneLine_iff.2 fun d hd => ?_
  rcases List.mem_cons.1 hd with rfl | hd
  · exact hquote.isPrintable
  rcases List.mem_append.1 hd with hd | hd
  · obtain ⟨c, -, hdc⟩ := List.mem_flatMap.1 hd
    exact isPrintable_of_mem_escapeChar hquote hdc
  · rw [List.mem_singleton.1 hd]
    exact hquote.isPrintable

/-! ## Reading -/

/-- Where a reader stands within the quotes: between two characters, behind a backslash, or within the number of a
character, of which some digits are to come after the next one. -/
inductive WithinQuotes
  | between
  | escaped
  | number (more value : Nat)
  deriving DecidableEq, Repr

/-- The place behind the next character of the text, and the character that is complete there. -/
def WithinQuotes.next? : WithinQuotes → Char → Option (WithinQuotes × Option Char)
  | between, c => if c = '\\' then some (escaped, none) else some (between, some c)
  | escaped, c =>
    if c = '\\' ∨ IsQuote c then some (between, some c)
    else if c = 'n' then some (between, some '\n')
    else if c = 'r' then some (between, some '\r')
    else if c = 't' then some (between, some '\t')
    else if c = 'x' then some (number 1 0, none)
    else if c = 'u' then some (number 3 0, none)
    else if c = 'U' then some (number 7 0, none)
    else none
  | number more value, c =>
    (hexValue? c).bind fun d =>
      match more with
      | 0 => if (16 * value + d).isValidChar then some (between, some (Char.ofNat (16 * value + d))) else none
      | more + 1 => some (number more (16 * value + d), none)

/-- The characters up to the closing quote, and the text after it. -/
def readUpTo? (quote : Char) : WithinQuotes → List Char → Option (List Char × List Char)
  | _, [] => none
  | place, c :: cs =>
    if place = .between ∧ c = quote then some ([], cs)
    else (place.next? c).bind fun p =>
      (readUpTo? quote p.1 cs).map fun found => (p.2.toList ++ found.1, found.2)

/-- The characters between the quotes with which a text begins, and the text after them. -/
def readQuoted? : List Char → Option (List Char × List Char)
  | [] => none
  | quote :: cs => if IsQuote quote then readUpTo? quote .between cs else none

section

variable {quote c : Char} {cs rest : List Char} {place place' : WithinQuotes} {shown : Option Char}

theorem readUpTo?_close : readUpTo? quote .between (quote :: rest) = some ([], rest) := by simp [readUpTo?]

/-- One step of the reader that does not close the text. -/
theorem readUpTo?_step (hopen : place = .between → c ≠ quote) (hnext : place.next? c = some (place', shown)) :
    readUpTo? quote place (c :: rest) =
      (readUpTo? quote place' rest).map fun found => (shown.toList ++ found.1, found.2) := by
  rw [readUpTo?, if_neg (fun h => hopen h.1 h.2), hnext]
  rfl

/-- A step that completes no character. -/
theorem readUpTo?_pass (hopen : place = .between → c ≠ quote) (hnext : place.next? c = some (place', none)) :
    readUpTo? quote place (c :: rest) = readUpTo? quote place' rest := by
  rw [readUpTo?_step hopen hnext]
  simp

/-- All digits of a number but the last add up. -/
theorem readUpTo?_digits (width : Nat) {more value n : Nat} (hn : n < 16 ^ width) :
    readUpTo? quote (.number (width + more) value) (hexPadded width n ++ rest) =
      readUpTo? quote (.number more (16 ^ width * value + n)) rest := by
  induction width generalizing n more rest with
  | zero =>
    obtain rfl : n = 0 := by simpa using hn
    simp [hexPadded]
  | succ width ih =>
    have hhigh : n / 16 < 16 ^ width := Nat.div_lt_of_lt_mul (by rwa [pow_succ'] at hn)
    have hdigit := hexValue?_hexDigit (n % 16) (Nat.mod_lt n (by decide))
    have hsum : 16 * (16 ^ width * value + n / 16) + n % 16 = 16 ^ (width + 1) * value + n := by
      rw [pow_succ', mul_add, ← mul_assoc, add_assoc, Nat.div_add_mod]
    have hnext : (WithinQuotes.number (more + 1) (16 ^ width * value + n / 16)).next? (hexDigit (n % 16)) =
        some (.number more (16 ^ (width + 1) * value + n), none) := by simp [WithinQuotes.next?, hdigit, hsum]
    -- the digits are written from behind, so those in front are read with one more to come
    rw [hexPadded, List.append_assoc, List.singleton_append, Nat.add_right_comm, Nat.add_assoc, ih hhigh]
    exact readUpTo?_pass (fun h => by cases h) hnext

/-- The last digit of a number completes its character. -/
theorem readUpTo?_number (width : Nat) (hc : c.toNat < 16 ^ (width + 1)) :
    readUpTo? quote (.number width 0) (hexPadded (width + 1) c.toNat ++ rest) =
      (readUpTo? quote .between rest).map fun found => (c :: found.1, found.2) := by
  have hhigh : c.toNat / 16 < 16 ^ width := Nat.div_lt_of_lt_mul (by rwa [pow_succ'] at hc)
  have hdigit := hexValue?_hexDigit (c.toNat % 16) (Nat.mod_lt c.toNat (by decide))
  have hvalid : c.toNat.isValidChar := c.valid
  have hlast : (WithinQuotes.number 0 (c.toNat / 16)).next? (hexDigit (c.toNat % 16)) = some (.between, some c) := by
    simp [WithinQuotes.next?, hdigit, Nat.div_add_mod, hvalid]
  have hdigits : readUpTo? quote (.number (width + 0) 0) (hexPadded (width + 1) c.toNat ++ rest) =
      readUpTo? quote (.number 0 (c.toNat / 16)) (hexDigit (c.toNat % 16) :: rest) := by
    rw [hexPadded, List.append_assoc, List.singleton_append, readUpTo?_digits width hhigh, Nat.mul_zero, Nat.zero_add]
  exact hdigits.trans (readUpTo?_step (fun h => by cases h) hlast)

/-- A backslash is never taken for the closing quote. -/
theorem readUpTo?_backslash (hquote : IsQuote quote) :
    readUpTo? quote .between ('\\' :: rest) = readUpTo? quote .escaped rest := by
  refine readUpTo?_pass (fun _ => ?_) rfl
  rcases hquote with rfl | rfl <;> decide

theorem readUpTo?_numericEscape (hquote : IsQuote quote) :
    readUpTo? quote .between (numericEscape c.toNat ++ rest) =
      (readUpTo? quote .between rest).map fun found => (c :: found.1, found.2) := by
  have hmost : c.toNat < 0x110000 := by
    rcases c.valid with h | h
    · exact Nat.lt_trans h (by decide)
    · exact h.2
  have hnumber : ∀ (letter : Char) (width : Nat),
      WithinQuotes.escaped.next? letter = some (.number width 0, none) → c.toNat < 16 ^ (width + 1) →
      readUpTo? quote .between ('\\' :: letter :: hexPadded (width + 1) c.toNat ++ rest) =
        (readUpTo? quote .between rest).map fun found => (c :: found.1, found.2) := by
    intro letter width hletter hwidth
    refine (readUpTo?_backslash hquote).trans ?_
    exact (readUpTo?_pass (fun h => by cases h) hletter).trans (readUpTo?_number width hwidth)
  unfold numericEscape
  split
  · exact hnumber 'x' 1 rfl (by omega)
  split
  · exact hnumber 'u' 3 rfl (by omega)
  · exact hnumber 'U' 7 rfl (by omega)

/-- What is written for a character is read as this character, whichever quote stands around the text. -/
theorem readUpTo?_escapeChar (hquote : IsQuote quote) :
    readUpTo? quote .between (escapeChar quote c ++ rest) =
      (readUpTo? quote .between rest).map fun found => (c :: found.1, found.2) := by
  have hpair : ∀ d : Char, WithinQuotes.escaped.next? d = some (.between, some c) →
      readUpTo? quote .between (['\\', d] ++ rest) =
        (readUpTo? quote .between rest).map fun found => (c :: found.1, found.2) := by
    intro d hd
    exact (readUpTo?_backslash hquote).trans (readUpTo?_step (fun h => by cases h) hd)
  unfold escapeChar
  split
  · rename_i hc
    have hself : c = '\\' ∨ IsQuote c := hc.elim (fun h => .inr (h ▸ hquote)) .inl
    exact hpair c (if_pos hself)
  split
  · subst_vars
    exact hpair 'n' rfl
  split
  · subst_vars
    exact hpair 'r' rfl
  split
  · subst_vars
    exact hpair 't' rfl
  rename_i hc _ _ _
  split
  · have hraw : WithinQuotes.between.next? c = some (.between, some c) := if_neg fun h => hc (.inr h)
    exact readUpTo?_step (fun _ h => hc (.inl h)) hraw
  · exact readUpTo?_numericEscape hquote

theorem readUpTo?_flatMap (hquote : IsQuote quote) :
    readUpTo? quote .between (cs.flatMap (escapeChar quote) ++ quote :: rest) = some (cs, rest) := by
  induction cs with
  | nil => exact readUpTo?_close
  | cons c cs ih => rw [List.flatMap_cons, List.append_assoc, readUpTo?_escapeChar hquote, ih, Option.map_some]

end

/-- **What was quoted is read back**, and whatever comes after the closing quote is left. -/
theorem readQuoted?_quotedChars (cs rest : List Char) : readQuoted? (quotedChars cs ++ rest) = some (cs, rest) := by
  have hquote := isQuote_quoteFor cs
  rw [quotedChars, List.cons_append, List.append_assoc, List.singleton_append, readQuoted?, if_pos hquote]
  exact readUpTo?_flatMap hquote

@[simp] theorem toList_quoted (s : String) : (quoted s).toList = quotedChars s.toList := String.toList_ofList

theorem readQuoted?_quoted (s : String) : readQuoted? (quoted s).toList = some (s.toList, []) := by
  simpa using readQuoted?_quotedChars s.toList []

/-- Different texts are quoted differently. -/
theorem quoted_injective {s t : String} (h : quoted s = quoted t) : s = t := by
  have hs := readQuoted?_quoted s
  rw [h, readQuoted?_quoted] at hs
  simpa [String.toList_inj] using hs.symm

end ScanAdapter.Text
