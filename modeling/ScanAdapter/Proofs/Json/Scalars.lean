import ScanAdapter.Json.Reader
import ScanAdapter.Json.Writer
import ScanAdapter.Proofs.Number.Shortest

/-!
# Written strings and numbers are read back

The reading of a string undoes the escape of each character (`readString_escapeChar`), and the reading of a
number undoes the layout of its digits (`readNumber_decimal`), wherever the point stands and whether or not
there is an exponent. What follows a number must not carry it on (`EndsNumber`).
-/
namespace ScanAdapter.Json

/-! ## Strings -/

/-- The four digits of a control character stand for its number. -/
theorem hexFour?_hexPadded {n : Nat} (hn : n < 0x20) :
    ∃ a b c d, Text.hexPadded 4 n = [a, b, c, d] ∧ hexFour? a b c d = some n := by
  refine ⟨_, _, _, _, rfl, ?_⟩
  revert n
  decide

theorem readString_quote (read rest : List Char) :
    readString read ('"' :: rest) = .ok (String.ofList read.reverse, rest) := by
  rw [readString]

theorem readString_raw {c : Char} (hq : c ≠ '"') (hb : c ≠ '\\') (hc : ¬ c.toNat < 0x20)
    (read rest : List Char) : readString read (c :: rest) = readString (c :: read) rest := by
  rw [readString.eq_def]
  split <;> simp_all

theorem readString_escapeChar (c : Char) (read rest : List Char) :
    readString read (escapeChar c ++ rest) = readString (c :: read) rest := by
  unfold escapeChar
  split
  · subst_vars; simp [readString, shortEscape?]
  split
  · subst_vars; simp [readString, shortEscape?]
  split
  · subst_vars; simp [readString, shortEscape?]
  split
  · subst_vars; simp [readString, shortEscape?]
  split
  · subst_vars; simp [readString, shortEscape?]
  split
  · subst_vars; simp [readString, shortEscape?]
  split
  · subst_vars; simp [readString, shortEscape?]
  split
  · rename_i hc
    obtain ⟨a, b, d, e, hh, hv⟩ := hexFour?_hexPadded hc
    have hhigh : isHighSurrogate c.toNat = false := by simp [isHighSurrogate]; omega
    have hlow : isLowSurrogate c.toNat = false := by simp [isLowSurrogate]; omega
    rw [hh]
    simp only [List.cons_append, List.nil_append]
    rw [readString, hv]
    simp [hhigh, hlow]
  · exact readString_raw ‹_› ‹_› ‹_› read rest

theorem readString_flatMap (cs read rest : List Char) :
    readString read (cs.flatMap escapeChar ++ '"' :: rest) = .ok (String.ofList (read.reverse ++ cs), rest) := by
  induction cs generalizing read with
  | nil => simpa using readString_quote read rest
  | cons c cs ih =>
    rw [List.flatMap_cons, List.append_assoc, readString_escapeChar, ih]
    simp

/-- **A written string reads back**, whatever comes after it. -/
theorem readString_renderString (s : String) (rest : List Char) :
    readString [] (s.toList.flatMap escapeChar ++ '"' :: rest) = .ok (s, rest) := by
  simpa using readString_flatMap s.toList [] rest

/-! ## Parts of a number -/

/-- What comes first neither carries a row of digits on nor begins a fraction or an exponent. -/
def EndsNumber (cs : List Char) : Prop :=
  ∀ c ∈ cs.head?, c.isDigit = false ∧ c ≠ '.' ∧ c ≠ 'e' ∧ c ≠ 'E'

theorem EndsNumber.digits {cs : List Char} (h : EndsNumber cs) : Text.EndsDigits cs := fun c hc => (h c hc).1

theorem endsNumber_nil : EndsNumber [] := fun c hc => by cases hc

theorem endsNumber_cons {c : Char} (cs : List Char)
    (h : c.isDigit = false ∧ c ≠ '.' ∧ c ≠ 'e' ∧ c ≠ 'E') : EndsNumber (c :: cs) := by
  intro d hd
  cases hd
  exact h

theorem endsDigits_cons {c : Char} (cs : List Char) (h : c.isDigit = false) : Text.EndsDigits (c :: cs) := by
  intro d hd
  cases hd
  exact h

variable {ds rest : List Char}

theorem readDigits_append (hne : ds ≠ []) (hd : ∀ c ∈ ds, c.isDigit = true) (hr : Text.EndsDigits rest) :
    readDigits (ds ++ rest) = .ok (ds, rest) := by
  unfold readDigits
  rw [Text.splitDigits_append_of_ends hd hr]
  obtain ⟨d, ds, rfl⟩ := List.exists_cons_of_ne_nil hne
  rfl

/-- A whole part is the digit zero, or no zero leads it. -/
theorem readWhole_append (hne : ds ≠ []) (hd : ∀ c ∈ ds, c.isDigit = true) (hr : Text.EndsDigits rest)
    (hz : ds = ['0'] ∨ ds.head? ≠ some '0') : readWhole (ds ++ rest) = .ok (ds, rest) := by
  unfold readWhole
  rw [readDigits_append hne hd hr]
  split
  · rename_i heq
    injection heq with heq
    injection heq with heq _
    subst heq
    simp at hz
  · rfl

theorem readPart_of_ends (h : EndsNumber rest) : readPart rest = .ok (none, rest) := by
  cases rest with
  | nil => rfl
  | cons c rest =>
    have hc := (h c rfl).2.1
    unfold readPart
    split
    · rename_i heq
      injection heq with heq _
      exact absurd heq hc
    · rfl

theorem readPart_point (hne : ds ≠ []) (hd : ∀ c ∈ ds, c.isDigit = true) (hr : Text.EndsDigits rest) :
    readPart ('.' :: (ds ++ rest)) = .ok (some ds, rest) := by
  rw [readPart, readDigits_append hne hd hr]

theorem readExponent_of_ends (h : EndsNumber rest) : readExponent rest = .ok (none, rest) := by
  cases rest with
  | nil => rfl
  | cons c rest =>
    obtain ⟨-, -, he, hE⟩ := h c rfl
    unfold readExponent
    exact if_neg (by simp [he, hE])

/-- A signed exponent. -/
theorem readExponent_sign (e : Int) (width : Nat) (hr : Text.EndsDigits rest) :
    readExponent ('e' :: (if e < 0 then '-' else '+') :: (Text.padded width e.natAbs ++ rest)) =
      .ok (some e, rest) := by
  have hp := readDigits_append (Text.padded_ne_nil width e.natAbs) (fun c => Text.isDigit_of_mem_padded) hr
  by_cases he : e < 0
  · simp only [readExponent, he, if_true, true_or, hp, Text.valueOf_padded]
    congr
    omega
  · simp only [readExponent, he, if_true, if_false, true_or, hp, Text.valueOf_padded]
    congr
    simp
    omega

/-- A number of which all parts are read. -/
theorem readNumber_of_parts {negative : Bool} {cs whole r₁ r₂ r₃ : List Char} {part : Option (List Char)}
    {exponent : Option Int} (h₁ : readWhole cs = .ok (whole, r₁)) (hl : whole.length ≤ Number.maxDigits)
    (h₂ : readPart r₁ = .ok (part, r₂)) (h₃ : readExponent r₂ = .ok (exponent, r₃)) :
    readNumber negative cs = .ok (.number (numberOf negative whole part exponent), r₃) := by
  simp only [readNumber, h₁, h₂, h₃, if_neg (Nat.not_lt.2 hl)]

/-! ## Integers -/

theorem decimal_wellFormed (n : Nat) : Text.decimal n = ['0'] ∨ (Text.decimal n).head? ≠ some '0' := by
  by_cases h : n = 0
  · subst h
    exact .inl rfl
  · exact .inr (Text.head_decimal_ne_zero h)

/-- An integer of no more digits than an integer may have. -/
theorem readNumber_integer {n : Nat} (negative : Bool) (hl : (Text.decimal n).length ≤ Number.maxDigits)
    (hr : EndsNumber rest) : readNumber negative (Text.decimal n ++ rest) =
      .ok (.number (.int (if negative then -(n : Nat) else (n : Nat))), rest) := by
  rw [readNumber_of_parts (readWhole_append (Text.decimal_ne_nil n) (fun c => Text.isDigit_of_mem_decimal)
    hr.digits (decimal_wellFormed n)) hl (readPart_of_ends hr) (readExponent_of_ends hr)]
  simp [numberOf]

/-- A longer integer is refused. -/
theorem readNumber_tooLong {n : Nat} (negative : Bool) (hl : ¬ (Text.decimal n).length ≤ Number.maxDigits)
    (hr : EndsNumber rest) : ∃ f, readNumber negative (Text.decimal n ++ rest) = .error f := by
  rw [readNumber, readWhole_append (Text.decimal_ne_nil n) (fun c => Text.isDigit_of_mem_decimal)
    hr.digits (decimal_wellFormed n)]
  exact ⟨_, if_pos (Nat.not_le.1 hl)⟩

/-! ## Floating-point numbers -/

/-- Digits with a point behind them, and zeros between if need be. -/
theorem readNumber_pointAfter (negative : Bool) {d : Decimal} (hd : d.digits = 0 → d.exponent = 0)
    (he : 0 ≤ d.exponent) (hplace : (Text.decimal d.digits).length - 1 + d.exponent < 16) (hr : EndsNumber rest) :
    readNumber negative (Text.decimal d.digits ++ List.replicate d.exponent.toNat '0' ++ ['.', '0'] ++ rest) =
      .ok (.number (.float (.ofDecimal negative d.digits d.exponent)), rest) := by
  obtain ⟨k, hk⟩ := Int.eq_ofNat_of_zero_le he
  have hlen := Text.length_decimal_pos d.digits
  have hall : ∀ c ∈ Text.decimal d.digits ++ List.replicate k '0', c.isDigit = true := by
    intro c hc
    rcases List.mem_append.1 hc with hc | hc
    · exact Text.isDigit_of_mem_decimal hc
    · rw [List.eq_of_mem_replicate hc]; rfl
  have hz : Text.decimal d.digits ++ List.replicate k '0' = ['0'] ∨
      (Text.decimal d.digits ++ List.replicate k '0').head? ≠ some '0' := by
    by_cases h0 : d.digits = 0
    · have : k = 0 := by have := hd h0; omega
      subst this
      rw [h0]
      exact .inl rfl
    · have := Text.head_decimal_ne_zero h0
      obtain ⟨c, cs, hcs⟩ := List.exists_cons_of_ne_nil (Text.decimal_ne_nil d.digits)
      rw [hcs] at this ⊢
      exact .inr (by simpa using this)
  rw [hk, Int.toNat_natCast]
  rw [show Text.decimal d.digits ++ List.replicate k '0' ++ ['.', '0'] ++ rest =
    (Text.decimal d.digits ++ List.replicate k '0') ++ ('.' :: (['0'] ++ rest)) by simp]
  rw [readNumber_of_parts (readWhole_append (by simp) hall (endsDigits_cons _ (by decide)) hz)
    (by simp only [List.length_append, List.length_replicate, Number.maxDigits]; omega)
    (readPart_point (by simp) (by simp) hr.digits) (readExponent_of_ends hr)]
  have hv : Text.valueOf (Text.decimal d.digits ++ List.replicate k '0' ++ ['0']) = d.digits * 10 ^ (k + 1) := by
    rw [List.append_assoc, ← List.replicate_succ', Text.valueOf_append, Text.valueOf_replicate_zero]
    simp
  have hscale := Binary64.ofDecimal_mul_ten_pow negative d.digits (k + 1) k
  simp only [numberOf, Option.getD_some, Option.getD_none, hv, List.length_singleton]
  rw [show (0 : Int) - ((1 : Nat) : Int) = (k : Int) - ((k + 1 : Nat) : Int) by omega, hscale]

/-- Digits on either side of the point. -/
theorem readNumber_pointWithin (negative : Bool) {d : Decimal} {after : Nat} (he : d.exponent = -(after : Int))
    (hpos : 0 < after) (hlt : after < (Text.decimal d.digits).length)
    (hplace : (Text.decimal d.digits).length - 1 + d.exponent < 16) (hr : EndsNumber rest) :
    readNumber negative ((Text.decimal d.digits).take ((Text.decimal d.digits).length - after) ++
        '.' :: (Text.decimal d.digits).drop ((Text.decimal d.digits).length - after) ++ rest) =
      .ok (.number (.float (.ofDecimal negative d.digits d.exponent)), rest) := by
  have hv := Text.valueOf_decimal d.digits
  have hdig : ∀ c ∈ Text.decimal d.digits, c.isDigit = true := fun c => Text.isDigit_of_mem_decimal
  have hne : d.digits ≠ 0 := by
    intro h0
    rw [h0] at hlt
    have : (Text.decimal 0).length = 1 := rfl
    omega
  have hhead := Text.head_decimal_ne_zero hne
  generalize Text.decimal d.digits = ds at *
  obtain ⟨w, hw⟩ : ∃ w, ds.length - after = w + 1 := ⟨ds.length - after - 1, by omega⟩
  rw [hw, List.append_assoc, List.cons_append]
  have hwl : (ds.take (w + 1)).length = w + 1 := by rw [List.length_take]; omega
  have hdl : (ds.drop (w + 1)).length = after := by rw [List.length_drop]; omega
  have htake : (ds.take (w + 1)).head? ≠ some '0' := by
    cases ds with
    | nil => simp at hlt
    | cons c cs => simpa using hhead
  rw [readNumber_of_parts
    (readWhole_append (List.ne_nil_of_length_pos (by omega)) (fun c hc => hdig c (List.mem_of_mem_take hc))
      (endsDigits_cons _ (by decide)) (.inr htake))
    (by simp only [hwl, Number.maxDigits]; omega)
    (readPart_point (List.ne_nil_of_length_pos (by omega)) (fun c hc => hdig c (List.mem_of_mem_drop hc)) hr.digits)
    (readExponent_of_ends hr)]
  simp only [numberOf, Option.getD_some, Option.getD_none, List.take_append_drop, hv, hdl, he, zero_sub]

/-- A zero before the point, and perhaps more of them behind it. -/
theorem readNumber_pointBefore (negative : Bool) {d : Decimal} {after : Nat} (he : d.exponent = -(after : Int))
    (hle : (Text.decimal d.digits).length ≤ after) (hr : EndsNumber rest) :
    readNumber negative ('0' :: '.' :: (List.replicate (after - (Text.decimal d.digits).length) '0' ++
        Text.decimal d.digits) ++ rest) =
      .ok (.number (.float (.ofDecimal negative d.digits d.exponent)), rest) := by
  have hv := Text.valueOf_decimal d.digits
  have hdig : ∀ c ∈ Text.decimal d.digits, c.isDigit = true := fun c => Text.isDigit_of_mem_decimal
  have hne := Text.decimal_ne_nil d.digits
  generalize Text.decimal d.digits = ds at *
  have hall : ∀ c ∈ List.replicate (after - ds.length) '0' ++ ds, c.isDigit = true := by
    intro c hc
    rcases List.mem_append.1 hc with hc | hc
    · rw [List.eq_of_mem_replicate hc]; rfl
    · exact hdig c hc
  rw [show '0' :: '.' :: (List.replicate (after - ds.length) '0' ++ ds) ++ rest =
    ['0'] ++ ('.' :: (List.replicate (after - ds.length) '0' ++ ds ++ rest)) by simp]
  rw [readNumber_of_parts
    (readWhole_append (by simp) (by simp) (endsDigits_cons _ (by decide)) (.inl rfl)) (by simp [Number.maxDigits])
    (readPart_point (by simp [hne]) hall hr.digits) (readExponent_of_ends hr)]
  have hvalue : Text.valueOf (['0'] ++ (List.replicate (after - ds.length) '0' ++ ds)) = d.digits := by
    rw [Text.valueOf_append, Text.valueOf_append, Text.valueOf_replicate_zero, hv]
    simp [Text.valueOf, Text.digitValue]
  have hlen : (List.replicate (after - ds.length) '0' ++ ds).length = after := by
    simp only [List.length_append, List.length_replicate]
    omega
  simp only [numberOf, Option.getD_some, Option.getD_none, hvalue, hlen, he, zero_sub]

/-- One digit, others behind the point, and an exponent. -/
theorem readNumber_scientific (negative : Bool) {d : Decimal} (hd : d.digits ≠ 0) (width : Nat)
    (hr : EndsNumber rest) :
    readNumber negative (Layout.scientific width (Text.decimal d.digits)
        ((Text.decimal d.digits).length - 1 + d.exponent) ++ rest) =
      .ok (.number (.float (.ofDecimal negative d.digits d.exponent)), rest) := by
  have hv := Text.valueOf_decimal d.digits
  have hdig : ∀ c ∈ Text.decimal d.digits, c.isDigit = true := fun c => Text.isDigit_of_mem_decimal
  have hhead := Text.head_decimal_ne_zero hd
  have hne := Text.decimal_ne_nil d.digits
  generalize Text.decimal d.digits = ds at *
  unfold Layout.scientific
  generalize hplace : (ds.length : Int) - 1 + d.exponent = place
  have hexp := readExponent_sign place width hr.digits
  obtain ⟨c, cs, rfl⟩ := List.exists_cons_of_ne_nil hne
  have hc : ∀ x ∈ [c], x.isDigit = true := fun x hx => hdig x (List.mem_cons.2 (.inl (List.mem_singleton.1 hx)))
  have hwhole : [c].head? ≠ some '0' := hhead
  cases cs with
  | nil =>
    rw [if_pos (by simp)]
    show readNumber negative ([c] ++ 'e' :: (if place < 0 then '-' else '+') ::
      (Text.padded width place.natAbs ++ rest)) = _
    rw [readNumber_of_parts
      (readWhole_append (by simp) hc (endsDigits_cons _ (by decide)) (.inr hwhole)) (by simp [Number.maxDigits])
      (show readPart ('e' :: _) = .ok (none, 'e' :: _) from rfl) hexp]
    have hscale : place - (([] : List Char).length : Int) = d.exponent := by simp at hplace ⊢; omega
    simp only [numberOf, Option.getD_some, Option.getD_none, List.append_nil, hv, hscale]
  | cons b bs =>
    have htext : [c] ++ '.' :: (b :: bs) ++ 'e' :: (if place < 0 then '-' else '+') ::
        Text.padded width place.natAbs ++ rest =
      [c] ++ '.' :: (b :: bs ++ 'e' :: (if place < 0 then '-' else '+') ::
        (Text.padded width place.natAbs ++ rest)) := by simp
    rw [if_neg (by simp)]
    simp only [List.take_succ_cons, List.take_zero, List.drop_succ_cons, List.drop_zero, htext]
    rw [readNumber_of_parts
      (readWhole_append (by simp) hc (endsDigits_cons _ (by decide)) (.inr hwhole)) (by simp [Number.maxDigits])
      (readPart_point (by simp) (fun x hx => hdig x (List.mem_cons_of_mem _ hx)) (endsDigits_cons _ (by decide)))
      hexp]
    have hscale : place - ((b :: bs).length : Int) = d.exponent := by
      rw [← hplace, List.length_cons (a := c)]
      omega
    simp only [numberOf, Option.getD_some, List.singleton_append, hv, hscale]

/-- The layout of JSON, read back. -/
theorem readNumber_decimal (negative : Bool) {d : Decimal} (hd : d.digits = 0 → d.exponent = 0)
    (hr : EndsNumber rest) : readNumber negative (Layout.json.decimal d ++ rest) =
      .ok (.number (.float (.ofDecimal negative d.digits d.exponent)), rest) := by
  unfold Layout.decimal
  dsimp only
  split
  · rename_i hplace
    have h16 : (Text.decimal d.digits).length - 1 + d.exponent < 16 := hplace.2
    unfold Layout.positional
    split
    · exact readNumber_pointAfter negative hd ‹_› h16 hr
    · rename_i he
      have hafter : d.exponent = -((-d.exponent).toNat : Int) := by omega
      dsimp only
      split
      · exact readNumber_pointWithin negative hafter (by omega) ‹_› h16 hr
      · exact readNumber_pointBefore negative hafter (by omega) hr
  · rename_i hplace
    refine readNumber_scientific negative (fun h0 => hplace ?_) _ hr
    -- zero is positional
    rw [hd h0, h0]
    decide

/-- **The text of a finite number reads back as the number.** -/
theorem readNumber_shortest (x : Finite) (hr : EndsNumber rest) :
    readNumber x.negative (Layout.json.decimal (.shortest x) ++ rest) =
      .ok (.number (.float (.finite x)), rest) := by
  have hz : (Decimal.shortest x).digits = 0 → (Decimal.shortest x).exponent = 0 := fun h => by
    rw [Decimal.shortest_of_digits_eq_zero h]
  rw [readNumber_decimal x.negative hz hr, Decimal.ofDecimal_shortest]

end ScanAdapter.Json
