import ScanAdapter.Proofs.Json.Data
import ScanAdapter.Proofs.Json.Scalars

/-!
# Written values are read back

The text of a value is read by one reader after the other just as it was written by one writer after the other,
so the proof goes through a value, the rest of an array and the rest of an object together. What comes after
the value must not carry a number on (`EndsNumber`). The reader's fuel is the length of the text, and each level
takes one of its depth. A value that the reader cannot follow is refused, and never read as another one.
-/
namespace ScanAdapter.Json

/-- A reading that comes to `a` with `rest` after it where `c` holds, and to a fault where it does not. -/
def ReadsIf {α : Type} (c : Prop) (r : Reading α) (a : α) (rest : List Char) : Prop :=
  (c → r = .ok (a, rest)) ∧ (¬ c → ∃ fault, r = .error fault)

theorem ReadsIf.always {α : Type} {c : Prop} {r : Reading α} {a : α} {rest : List Char} (hc : c)
    (h : r = .ok (a, rest)) : ReadsIf c r a rest := ⟨fun _ => h, fun hn => absurd hc hn⟩

theorem ReadsIf.never {α : Type} {c : Prop} {r : Reading α} {a : α} {rest : List Char} (hc : ¬ c)
    (h : ∃ fault, r = .error fault) : ReadsIf c r a rest := ⟨fun hy => absurd hy hc, fun _ => h⟩

theorem ReadsIf.of_iff {α : Type} {c d : Prop} {r : Reading α} {a b : α} {rest : List Char}
    (h : ReadsIf c r a rest) (hc : d ↔ c) (ha : a = b) : ReadsIf d r b rest := by
  rw [ReadsIf, hc, ← ha]
  exact h

/-! ## How a value begins -/

theorem ne_of_isDigit {c d : Char} (hc : c.isDigit = true) (hd : d.isDigit = false) : c ≠ d := by
  rintro rfl
  rw [hc] at hd
  cases hd

theorem isSpace_of_isDigit {c : Char} (hc : c.isDigit = true) : isSpace c = false := by
  simp [isSpace, ne_of_isDigit hc (show ' '.isDigit = false from rfl),
    ne_of_isDigit hc (show '\n'.isDigit = false from rfl), ne_of_isDigit hc (show '\t'.isDigit = false from rfl),
    ne_of_isDigit hc (show '\r'.isDigit = false from rfl)]

theorem head_decimal (n : Nat) : ∃ c cs, Text.decimal n = c :: cs ∧ c.isDigit = true := by
  obtain ⟨c, cs, h⟩ := List.exists_cons_of_ne_nil (Text.decimal_ne_nil n)
  exact ⟨c, cs, h, Text.isDigit_of_mem_decimal (h ▸ List.mem_cons_self)⟩

/-- In every layout a decimal begins with a digit. -/
theorem head_layout (l : Layout) (d : Decimal) : ∃ c cs, l.decimal d = c :: cs ∧ c.isDigit = true := by
  obtain ⟨c, cs, hds, hc⟩ := head_decimal d.digits
  unfold Layout.decimal
  dsimp only
  rw [hds]
  split
  · unfold Layout.positional
    split
    · exact ⟨c, _, rfl, hc⟩
    · dsimp only
      split
      · rename_i hlt
        obtain ⟨w, hw⟩ : ∃ w, (c :: cs).length - (-d.exponent).toNat = w + 1 :=
          ⟨(c :: cs).length - (-d.exponent).toNat - 1, by omega⟩
        rw [hw]
        exact ⟨c, _, rfl, hc⟩
      · exact ⟨'0', _, rfl, rfl⟩
  · unfold Layout.scientific
    dsimp only
    split
    · exact ⟨c, _, rfl, hc⟩
    · exact ⟨c, _, rfl, hc⟩

/-- A value begins neither with a blank nor with what closes an array. -/
theorem head_renderChars (v : Json) : ∃ c cs, v.renderChars = c :: cs ∧ isSpace c = false ∧ c ≠ ']' := by
  match v with
  | .null | .foreign _ => exact ⟨'n', _, rfl, rfl, by decide⟩
  | .bool true => exact ⟨'t', _, rfl, rfl, by decide⟩
  | .bool false => exact ⟨'f', _, rfl, rfl, by decide⟩
  | .string s => exact ⟨'"', _, rfl, rfl, by decide⟩
  | .array [] | .array (_ :: _) => exact ⟨'[', _, rfl, rfl, by decide⟩
  | .object [] | .object (_ :: _) => exact ⟨'\x7b', _, rfl, rfl, by decide⟩
  | .number (.float (.infinite true)) | .number (.float (.infinite false)) | .number (.float .nan) =>
    exact ⟨'n', _, rfl, rfl, by decide⟩
  | .number (.int (.ofNat n)) =>
    obtain ⟨c, cs, h, hc⟩ := head_decimal n
    exact ⟨c, cs, h, isSpace_of_isDigit hc, ne_of_isDigit hc rfl⟩
  | .number (.int (.negSucc n)) => exact ⟨'-', _, rfl, rfl, by decide⟩
  | .number (.float (.finite x)) =>
    obtain ⟨c, cs, h, hc⟩ := head_layout Layout.json (.shortest x)
    rw [renderChars, Layout.number, Layout.float, Layout.finite, h]
    cases x.negative with
    | true => exact ⟨'-', _, rfl, rfl, by decide⟩
    | false => exact ⟨c, cs, rfl, isSpace_of_isDigit hc, ne_of_isDigit hc rfl⟩

theorem length_renderChars_pos (v : Json) : 0 < v.renderChars.length := by
  obtain ⟨c, cs, h, -, -⟩ := head_renderChars v
  simp [h]

theorem skipSpace_cons {c : Char} (cs : List Char) (hc : isSpace c = false) : skipSpace (c :: cs) = c :: cs := by
  rw [skipSpace, List.dropWhile_cons_of_neg (by simp [hc])]

theorem skipSpace_renderChars (v : Json) (rest : List Char) :
    skipSpace (v.renderChars ++ rest) = v.renderChars ++ rest := by
  obtain ⟨c, cs, h, hc, -⟩ := head_renderChars v
  rw [h, List.cons_append, skipSpace_cons _ hc]

/-! ## One step of the readers -/

variable {fuel depth : Nat} {rest : List Char}

theorem readValue_digit {c : Char} {cs : List Char} (hc : c.isDigit = true) :
    readValue (fuel + 1) depth (c :: cs) = readNumber false (c :: cs) := by
  have hne {d : Char} (hd : d.isDigit = false) : c ≠ d := ne_of_isDigit hc hd
  unfold readValue
  rw [if_neg (hne rfl), if_neg (hne rfl), if_neg (hne rfl), if_neg (hne rfl), if_neg (hne rfl), if_neg (hne rfl),
    if_neg (hne rfl), if_neg (hne rfl), if_neg (hne rfl), if_pos hc]

theorem readValue_minus {c : Char} {cs : List Char} (hc : c.isDigit = true) :
    readValue (fuel + 1) depth ('-' :: c :: cs) = readNumber true (c :: cs) := by
  simp only [readValue, Char.reduceEq, if_false, if_true]
  split
  · rename_i heq
    injection heq with heq _
    exact absurd heq (ne_of_isDigit hc rfl)
  · rfl

theorem readValue_renderString (s : String) :
    readValue (fuel + 1) depth (renderString s ++ rest) = .ok (.string s, rest) := by
  simp only [renderString, List.cons_append, List.append_assoc, readValue, if_true, readString_renderString]
  rfl

theorem readValue_array (v : Json) (cs : List Char) :
    readValue (fuel + 1) (depth + 1) ('[' :: (v.renderChars ++ cs)) =
      readItems fuel depth [] (v.renderChars ++ cs) := by
  obtain ⟨c, ds, h, -, hc⟩ := head_renderChars v
  simp only [readValue, Char.reduceEq, if_false, if_true, skipSpace_renderChars]
  rw [h]
  simp only [List.cons_append]
  split
  · rename_i heq
    cases heq
  · rename_i heq
    injection heq with heq _
    exact absurd heq hc
  · rfl

theorem readValue_object (n : String) (cs : List Char) :
    readValue (fuel + 1) (depth + 1) ('\x7b' :: (renderString n ++ cs)) =
      readMembers fuel depth [] (renderString n ++ cs) := by
  simp only [readValue, Char.reduceEq, if_false, if_true, renderString, List.cons_append]
  rw [skipSpace_cons _ rfl]
  rfl

theorem readItems_refused {v : Json} {read : List Json} {cs : List Char} {fault : ReadFault}
    (hv : readValue fuel depth (v.renderChars ++ cs) = .error fault) :
    readItems (fuel + 1) depth read (v.renderChars ++ cs) = .error fault := by
  rw [readItems, hv]

theorem readItems_last {v w : Json} {read : List Json}
    (hv : readValue fuel depth (v.renderChars ++ ']' :: rest) = .ok (w, ']' :: rest)) :
    readItems (fuel + 1) depth read (v.renderChars ++ ']' :: rest) = .ok (.array (w :: read).reverse, rest) := by
  simp only [readItems, hv]
  rw [skipSpace_cons _ rfl]
  rfl

theorem readItems_next {v w x : Json} {read : List Json} {cs : List Char}
    (hv : readValue fuel depth (v.renderChars ++ ',' :: (x.renderChars ++ cs)) =
      .ok (w, ',' :: (x.renderChars ++ cs))) :
    readItems (fuel + 1) depth read (v.renderChars ++ ',' :: (x.renderChars ++ cs)) =
      readItems fuel depth (w :: read) (x.renderChars ++ cs) := by
  obtain ⟨c, ds, h, -, hc⟩ := head_renderChars x
  simp only [readItems, hv]
  rw [skipSpace_cons _ rfl]
  simp only [skipSpace_renderChars]
  rw [h]
  simp only [List.cons_append]
  split
  · rename_i heq
    injection heq with heq _
    exact absurd heq hc
  · rfl

/-- The name of a member and its colon, read before the value. -/
theorem readString_name (n : String) (v : Json) (cs : List Char) :
    readString [] (n.toList.flatMap escapeChar ++ '"' :: ':' :: (v.renderChars ++ cs)) =
        .ok (n, ':' :: (v.renderChars ++ cs)) ∧
      skipSpace (':' :: (v.renderChars ++ cs)) = ':' :: (v.renderChars ++ cs) :=
  ⟨readString_renderString n _, skipSpace_cons _ rfl⟩

theorem readMembers_refused {n : String} {v : Json} {read : Members} {cs : List Char} {fault : ReadFault}
    (hv : readValue fuel depth (v.renderChars ++ cs) = .error fault) :
    readMembers (fuel + 1) depth read (renderString n ++ ':' :: (v.renderChars ++ cs)) = .error fault := by
  obtain ⟨hname, hcolon⟩ := readString_name n v cs
  simp only [renderString, List.cons_append, List.append_assoc, readMembers, List.nil_append, hname, hcolon,
    skipSpace_renderChars, hv]

theorem readMembers_last {n : String} {v w : Json} {read : Members}
    (hv : readValue fuel depth (v.renderChars ++ '\x7d' :: rest) = .ok (w, '\x7d' :: rest)) :
    readMembers (fuel + 1) depth read (renderString n ++ ':' :: (v.renderChars ++ '\x7d' :: rest)) =
      .ok (.object (Entries.gather ((n, w) :: read).reverse), rest) := by
  obtain ⟨hname, hcolon⟩ := readString_name n v ('\x7d' :: rest)
  simp only [renderString, List.cons_append, List.append_assoc, readMembers, List.nil_append, hname, hcolon,
    skipSpace_renderChars, hv]
  rw [skipSpace_cons _ rfl]
  rfl

theorem readMembers_next {n m : String} {v w : Json} {read : Members} {cs : List Char}
    (hv : readValue fuel depth (v.renderChars ++ ',' :: (renderString m ++ cs)) =
      .ok (w, ',' :: (renderString m ++ cs))) :
    readMembers (fuel + 1) depth read
        (renderString n ++ ':' :: (v.renderChars ++ ',' :: (renderString m ++ cs))) =
      readMembers fuel depth ((n, w) :: read) (renderString m ++ cs) := by
  obtain ⟨hname, hcolon⟩ := readString_name n v (',' :: (renderString m ++ cs))
  rw [renderString, List.cons_append, List.append_assoc, List.singleton_append]
  simp only [readMembers, hname, hcolon, skipSpace_renderChars, hv]
  rw [skipSpace_cons _ rfl]
  simp only [renderString, List.cons_append]
  rw [skipSpace_cons _ rfl]
  rfl

/-! ## Whole values -/

/-- The text of a number. -/
theorem readValue_number (n : Number) (hr : EndsNumber rest) :
    ReadsIf (notTooLong (.number n) = true)
      (readValue (fuel + 1) depth (renderChars (.number n) ++ rest)) (settled (.number n)) rest := by
  match n with
  | .float (.infinite true) | .float (.infinite false) | .float .nan => exact .always rfl rfl
  | .float (.finite x) =>
    obtain ⟨c, cs, hcs, hc⟩ := head_layout Layout.json (.shortest x)
    have hx := readNumber_shortest x hr
    rw [hcs, List.cons_append] at hx
    refine .always rfl ?_
    rw [renderChars, Layout.number, Layout.float, Layout.finite, hcs]
    cases hneg : x.negative with
    | true =>
      rw [hneg] at hx
      exact (readValue_minus hc).trans hx
    | false =>
      rw [hneg] at hx
      exact (readValue_digit hc).trans hx
  | .int (.ofNat m) =>
    obtain ⟨c, cs, hcs, hc⟩ := head_decimal m
    have hread : readValue (fuel + 1) depth (renderChars (.number (.int (.ofNat m))) ++ rest) =
        readNumber false (Text.decimal m ++ rest) := by
      rw [renderChars, Layout.number, Text.integer, hcs]
      exact readValue_digit hc
    rw [ReadsIf, hread, notTooLong, (rfl : (Int.ofNat m).natAbs = m), decide_eq_true_iff]
    exact ⟨fun h => readNumber_integer false h hr, fun h => readNumber_tooLong false h hr⟩
  | .int (.negSucc m) =>
    obtain ⟨c, cs, hcs, hc⟩ := head_decimal (m + 1)
    have hread : readValue (fuel + 1) depth (renderChars (.number (.int (.negSucc m))) ++ rest) =
        readNumber true (Text.decimal (m + 1) ++ rest) := by
      rw [renderChars, Layout.number, Text.integer, hcs]
      exact readValue_minus hc
    rw [ReadsIf, hread, notTooLong, Int.natAbs_negSucc, decide_eq_true_iff]
    exact ⟨fun h => readNumber_integer true h hr, fun h => readNumber_tooLong true h hr⟩

/-- The value is read back from its text where a reader can follow it, whatever comes after it. -/
def ReadsBack (v : Json) : Prop :=
  ∀ (fuel depth : Nat) (rest : List Char), EndsNumber rest → v.renderChars.length < fuel →
    ReadsIf (v.isReadable depth = true) (readValue fuel depth (v.renderChars ++ rest)) v.settled rest

theorem isReadable_array {vs : List Json} :
    (array vs).isReadable (depth + 1) = true ↔ ∀ v ∈ vs, v.isReadable depth = true := by
  simp only [isReadable, every, levels, notTooLong, Bool.true_and, Bool.and_eq_true, everyItem_iff,
    decide_eq_true_iff, Nat.add_le_add_iff_right, levelsOfItems_le_iff, forall_and]

theorem isReadable_object {ms : Members} :
    (object ms).isReadable (depth + 1) = true ↔ ∀ m ∈ ms, m.2.isReadable depth = true := by
  simp only [isReadable, every, levels, notTooLong, Bool.true_and, Bool.and_eq_true, everyMember_iff,
    decide_eq_true_iff, Nat.add_le_add_iff_right, levelsOfMembers_le_iff, forall_and]

theorem not_isReadable_array_zero (vs : List Json) : ¬ (array vs).isReadable 0 = true := by
  simp [isReadable, levels]

theorem not_isReadable_object_zero (ms : Members) : ¬ (object ms).isReadable 0 = true := by
  simp [isReadable, levels]

/-- The items of an array from one of them on, each of which is read back. -/
theorem ReadsBack.items {v : Json} {vs : List Json} (hv : ReadsBack v) (hvs : ∀ w ∈ vs, ReadsBack w) {fuel : Nat}
    (read : List Json) (hfuel : (v.renderChars ++ renderItems vs).length < fuel) :
    ReadsIf (∀ w ∈ v :: vs, w.isReadable depth = true)
      (readItems fuel depth read (v.renderChars ++ (renderItems vs ++ rest)))
      (.array (read.reverse ++ (v :: vs).map settled)) rest := by
  induction vs generalizing v fuel read with
  | nil =>
    obtain ⟨fuel, rfl⟩ := Nat.exists_eq_add_one_of_ne_zero (Nat.ne_zero_of_lt hfuel)
    rw [List.length_append, renderItems, List.length_singleton] at hfuel
    obtain ⟨hok, hrefused⟩ := hv fuel depth (']' :: rest) (endsNumber_cons _ (by decide)) (by omega)
    rw [renderItems, List.singleton_append]
    constructor
    · intro h
      rw [readItems_last (hok (h v List.mem_cons_self)), List.reverse_cons]
      rfl
    · intro h
      obtain ⟨fault, hf⟩ := hrefused (by simpa using h)
      exact ⟨fault, readItems_refused hf⟩
  | cons x xs ih =>
    obtain ⟨fuel, rfl⟩ := Nat.exists_eq_add_one_of_ne_zero (Nat.ne_zero_of_lt hfuel)
    have hpos := length_renderChars_pos v
    rw [List.length_append, renderItems, List.length_cons] at hfuel
    obtain ⟨hok, hrefused⟩ := hv fuel depth (',' :: (x.renderChars ++ (renderItems xs ++ rest)))
      (endsNumber_cons _ (by decide)) (by omega)
    rw [renderItems, List.cons_append, List.append_assoc]
    by_cases hr : v.isReadable depth = true
    · rw [readItems_next (hok hr)]
      refine (ih (hvs x List.mem_cons_self) (fun w hw => hvs w (List.mem_cons_of_mem _ hw)) (v.settled :: read)
        (by omega)).of_iff ?_ ?_
      · rw [List.forall_mem_cons, and_iff_right hr]
      · rw [List.reverse_cons, List.append_assoc]
        rfl
    · obtain ⟨fault, hf⟩ := hrefused hr
      exact .never (fun h => hr (h v List.mem_cons_self)) ⟨fault, readItems_refused hf⟩

/-- The members of an object from one of them on. -/
theorem ReadsBack.members {n : String} {v : Json} {ms : Members} (hv : ReadsBack v)
    (hms : ∀ m ∈ ms, ReadsBack m.2) {fuel : Nat} (read : Members)
    (hfuel : (renderString n ++ ':' :: (v.renderChars ++ renderMembers ms)).length < fuel) :
    ReadsIf (∀ m ∈ (n, v) :: ms, m.2.isReadable depth = true)
      (readMembers fuel depth read (renderString n ++ ':' :: (v.renderChars ++ (renderMembers ms ++ rest))))
      (.object (Entries.gather (read.reverse ++ settledMembers ((n, v) :: ms)))) rest := by
  induction ms generalizing n v fuel read with
  | nil =>
    obtain ⟨fuel, rfl⟩ := Nat.exists_eq_add_one_of_ne_zero (Nat.ne_zero_of_lt hfuel)
    simp only [List.length_append, renderMembers, List.length_cons] at hfuel
    obtain ⟨hok, hrefused⟩ := hv fuel depth ('\x7d' :: rest) (endsNumber_cons _ (by decide)) (by omega)
    rw [renderMembers, List.singleton_append]
    constructor
    · intro h
      rw [readMembers_last (hok (h (n, v) List.mem_cons_self)), List.reverse_cons]
      rfl
    · intro h
      obtain ⟨fault, hf⟩ := hrefused (by simpa using h)
      exact ⟨fault, readMembers_refused hf⟩
  | cons x xs ih =>
    obtain ⟨m, x⟩ := x
    obtain ⟨fuel, rfl⟩ := Nat.exists_eq_add_one_of_ne_zero (Nat.ne_zero_of_lt hfuel)
    have hpos := length_renderChars_pos v
    simp only [List.length_append, renderMembers, List.length_cons] at hfuel
    obtain ⟨hok, hrefused⟩ := hv fuel depth
      (',' :: (renderString m ++ ':' :: (x.renderChars ++ (renderMembers xs ++ rest))))
      (endsNumber_cons _ (by decide)) (by omega)
    have htext : renderMembers ((m, x) :: xs) ++ rest =
        ',' :: (renderString m ++ ':' :: (x.renderChars ++ (renderMembers xs ++ rest))) := by
      simp [renderMembers]
    rw [htext]
    by_cases hr : v.isReadable depth = true
    · rw [readMembers_next (hok hr)]
      refine (ih (hms (m, x) List.mem_cons_self) (fun w hw => hms w (List.mem_cons_of_mem _ hw))
        ((n, v.settled) :: read) ?_).of_iff ?_ ?_
      · simp only [List.length_append, List.length_cons]
        omega
      · rw [List.forall_mem_cons, and_iff_right hr]
      · rw [List.reverse_cons, List.append_assoc]
        rfl
    · obtain ⟨fault, hf⟩ := hrefused hr
      exact .never (fun h => hr (h (n, v) List.mem_cons_self)) ⟨fault, readMembers_refused hf⟩

theorem readsBack_array {vs : List Json} (h : ∀ v ∈ vs, ReadsBack v) : ReadsBack (.array vs) := by
  intro fuel depth rest hr hfuel
  obtain ⟨fuel, rfl⟩ := Nat.exists_eq_add_one_of_ne_zero (Nat.ne_zero_of_lt hfuel)
  cases depth with
  | zero =>
    refine .never (not_isReadable_array_zero vs) ?_
    cases vs <;> exact ⟨_, rfl⟩
  | succ depth =>
    rw [isReadable_array]
    cases vs with
    | nil => exact .always (by simp) rfl
    | cons v vs =>
      rw [renderChars, List.cons_append, List.append_assoc, readValue_array, settled, settledItems_eq]
      rw [renderChars, List.length_cons] at hfuel
      exact (h v List.mem_cons_self).items (fun w hw => h w (List.mem_cons_of_mem _ hw)) [] (by omega)

theorem readsBack_object {ms : Members} (hn : (ms.map (·.1)).Nodup) (h : ∀ m ∈ ms, ReadsBack m.2) :
    ReadsBack (.object ms) := by
  intro fuel depth rest hr hfuel
  obtain ⟨fuel, rfl⟩ := Nat.exists_eq_add_one_of_ne_zero (Nat.ne_zero_of_lt hfuel)
  cases depth with
  | zero =>
    refine .never (not_isReadable_object_zero ms) ?_
    cases ms <;> exact ⟨_, rfl⟩
  | succ depth =>
    rw [isReadable_object]
    cases ms with
    | nil => exact .always (by simp) rfl
    | cons m ms =>
      obtain ⟨n, v⟩ := m
      have htext : renderChars (.object ((n, v) :: ms)) ++ rest =
          '\x7b' :: (renderString n ++ ':' :: (v.renderChars ++ (renderMembers ms ++ rest))) := by
        simp [renderChars]
      rw [renderChars, List.length_cons] at hfuel
      rw [htext, readValue_object]
      have hv : ReadsBack v := h (n, v) List.mem_cons_self
      refine (hv.members (fun w hw => h w (List.mem_cons_of_mem _ hw)) []
        (by omega)).of_iff Iff.rfl ?_
      -- the names of the members differ, so that none of them replaces another
      rw [List.reverse_nil, List.nil_append, Entries.gather_of_nodup (by rwa [names_settledMembers]), settled]

theorem sizeOf_member_lt {m : String × Json} {ms : Members} (h : m ∈ ms) : sizeOf m.2 < sizeOf (object ms) := by
  have hlt := List.sizeOf_lt_of_mem h
  obtain ⟨n, v⟩ := m
  rw [Prod.mk.sizeOf_spec] at hlt
  rw [object.sizeOf_spec]
  simp only
  omega

/-- **Every value whose names differ is read back.** -/
theorem readsBack : (v : Json) → v.every namesDiffer = true → ReadsBack v
  | .null, _ | .bool true, _ | .bool false, _ | .foreign _, _ => by
    intro fuel depth rest hr hfuel
    obtain ⟨fuel, rfl⟩ := Nat.exists_eq_add_one_of_ne_zero (Nat.ne_zero_of_lt hfuel)
    exact .always rfl rfl
  | .string s, _ => by
    intro fuel depth rest hr hfuel
    obtain ⟨fuel, rfl⟩ := Nat.exists_eq_add_one_of_ne_zero (Nat.ne_zero_of_lt hfuel)
    exact .always rfl (readValue_renderString s)
  | .number n, _ => by
    intro fuel depth rest hr hfuel
    obtain ⟨fuel, rfl⟩ := Nat.exists_eq_add_one_of_ne_zero (Nat.ne_zero_of_lt hfuel)
    exact (readValue_number n hr).of_iff (by simp [isReadable, every, levels]) rfl
  | .array vs, h => by
    rw [every, Bool.and_eq_true, everyItem_iff] at h
    exact readsBack_array fun v hv => readsBack v (h.2 v hv)
  | .object ms, h => by
    rw [every, Bool.and_eq_true, everyMember_iff, namesDiffer, decide_eq_true_iff] at h
    exact readsBack_object h.1 fun m hm => readsBack m.2 (h.2 m hm)
termination_by v => v
decreasing_by
  · have hlt := List.sizeOf_lt_of_mem hv
    rw [array.sizeOf_spec]
    omega
  · exact sizeOf_member_lt hm

/-! ## Whole texts -/

/-- **A text is parsed to the settled value where the parser can follow it, and is refused where not.** -/
theorem parse_render (v : Json) (hn : v.every namesDiffer = true) (depth : Nat) :
    (v.isReadable depth = true → parse depth v.render.toList = .ok v.settled) ∧
      (¬ v.isReadable depth = true → ∃ fault, parse depth v.render.toList = .error fault) := by
  have htext : v.render.toList = v.renderChars := String.toList_ofList
  obtain ⟨hok, hrefused⟩ := readsBack v hn (v.renderChars.length + 1) depth [] endsNumber_nil (Nat.lt_succ_self _)
  have hskip := skipSpace_renderChars v []
  rw [List.append_nil] at hok hrefused hskip
  rw [htext, parse, hskip]
  constructor
  · intro h
    rw [hok h]
    rfl
  · intro h
    obtain ⟨fault, hf⟩ := hrefused h
    exact ⟨fault, by rw [hf]⟩

end ScanAdapter.Json
