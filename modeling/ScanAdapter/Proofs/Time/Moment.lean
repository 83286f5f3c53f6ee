import ScanAdapter.Proofs.Text.Digits
import ScanAdapter.Time.Moment

/-!
# The text of a moment reads back

Each part of the text is read by the function that stands for it and leaves the parts after it: the date, the
clock with its fraction, the offset. A row of digits ends where a sign, a point or `Z` comes next.
-/
namespace ScanAdapter.Moment

variable {rest : List Char}

/-- A date of four, two and two digits. -/
theorem readDate_padded {year month day : Nat} (hy : year < 10000) (hm : month < 100) (hd : day < 100) :
    readDate (Text.padded 4 year ++ '-' :: (Text.padded 2 month ++ '-' :: (Text.padded 2 day ++ rest))) =
      some ((year, month, day), rest) := by
  obtain ⟨century, inCentury, cs, hc, hyear, rfl⟩ := Text.twoDigits_padded_four hy
    ('-' :: (Text.padded 2 month ++ '-' :: (Text.padded 2 day ++ rest)))
  have hmonth := Text.twoDigits_padded hm ('-' :: (Text.padded 2 day ++ rest))
  have hday := Text.twoDigits_padded hd rest
  simp [readDate, hc, hyear, hmonth, hday]

theorem offsetText_cases (offset : Option Int) :
    offsetText offset = [] ∨ ∃ c cs, offsetText offset = c :: cs ∧ (c = 'Z' ∨ c = '-' ∨ c = '+') := by
  unfold offsetText
  split
  · exact .inl rfl
  · split
    · exact .inr ⟨'Z', _, rfl, .inl rfl⟩
    · split
      · exact .inr ⟨'-', _, rfl, .inr (.inl rfl)⟩
      · exact .inr ⟨'+', _, rfl, .inr (.inr rfl)⟩

/-- No fraction stands for zero, six digits for their number. -/
theorem readFraction_text {microsecond : Nat} (h : microsecond < 1000000) (offset : Option Int) :
    readFraction ((if microsecond = 0 then [] else '.' :: Text.padded 6 microsecond) ++ offsetText offset) =
      some (microsecond, offsetText offset) := by
  by_cases h0 : microsecond = 0
  · subst h0
    rw [if_pos rfl, List.nil_append]
    rcases offsetText_cases offset with ho | ⟨c, cs, ho, hc⟩
    · rw [ho]
      rfl
    · rw [ho]
      rcases hc with rfl | rfl | rfl <;> rfl
  · have hends : Text.EndsDigits (offsetText offset) := by
      rcases offsetText_cases offset with ho | ⟨c, cs, ho, hc⟩
      · rw [ho]
        intro d hd
        cases hd
      · rw [ho]
        intro d hd
        cases hd
        rcases hc with rfl | rfl | rfl <;> rfl
    have hsplit := Text.splitDigits_append_of_ends
      (fun c => @Text.isDigit_of_mem_padded 6 microsecond c) hends
    have hne : (Text.padded 6 microsecond).isEmpty = false := by
      simpa using Text.padded_ne_nil 6 microsecond
    rw [if_neg h0, List.cons_append]
    simp [readFraction, hsplit, hne, Text.millionths_padded h]

/-- Hours, minutes and seconds of two digits each. -/
theorem readClock_text {hour minute second microsecond : Nat} (hh : hour < 100) (hm : minute < 100)
    (hs : second < 100) (hu : microsecond < 1000000) (offset : Option Int) :
    readClock (Text.padded 2 hour ++ ':' :: (Text.padded 2 minute ++ ':' :: (Text.padded 2 second ++
        ((if microsecond = 0 then [] else '.' :: Text.padded 6 microsecond) ++ offsetText offset)))) =
      some ((hour, minute, second, microsecond), offsetText offset) := by
  have hhour := Text.twoDigits_padded hh (':' :: (Text.padded 2 minute ++ ':' :: (Text.padded 2 second ++
    ((if microsecond = 0 then [] else '.' :: Text.padded 6 microsecond) ++ offsetText offset))))
  have hminute := Text.twoDigits_padded hm (':' :: (Text.padded 2 second ++
    ((if microsecond = 0 then [] else '.' :: Text.padded 6 microsecond) ++ offsetText offset)))
  have hsecond := Text.twoDigits_padded hs
    ((if microsecond = 0 then [] else '.' :: Text.padded 6 microsecond) ++ offsetText offset)
  have hfraction := readFraction_text hu offset
  simp [readClock, hhour, hminute, hsecond, hfraction]

/-- A sign, two digits of hours, a colon and two digits of minutes. -/
theorem readOffset_signed {minutes : Nat} (h : minutes < 1440) {sign : Char} (hs : sign = '-' ∨ sign = '+') :
    readOffset (sign :: (Text.padded 2 (minutes / 60) ++ ':' :: Text.padded 2 (minutes % 60))) =
      some (some (if isMinus sign then -(minutes : Int) else minutes)) := by
  have hhours := Text.twoDigits_padded (show minutes / 60 < 100 by omega) (':' :: Text.padded 2 (minutes % 60))
  have hminutes := Text.twoDigits_padded (show minutes % 60 < 100 by omega) []
  rw [List.append_nil] at hminutes
  have hsmall : ¬ 60 ≤ minutes % 60 := by omega
  rcases hs with rfl | rfl <;> simp [readOffset, hhours, hminutes, hsmall, isMinus] <;> omega

theorem readOffset_offsetText {offset : Option Int} (h : (offset.getD 0).natAbs < 1440) :
    readOffset (offsetText offset) = some offset := by
  match offset with
  | none => rfl
  | some minutes =>
    rw [Option.getD_some] at h
    rw [offsetText]
    split
    · subst_vars
      rfl
    · rename_i hne
      by_cases hneg : minutes < 0
      · have hback : -(minutes.natAbs : Int) = minutes := by omega
        rw [if_pos hneg, readOffset_signed h (.inl rfl), if_pos (show isMinus '-' = true from rfl), hback]
      · have hback : (minutes.natAbs : Int) = minutes := by omega
        rw [if_neg hneg, readOffset_signed h (.inr rfl), if_neg (by decide), hback]

theorem ofParts_self (m : Moment) :
    ofParts m.year m.month m.day m.hour m.minute m.second m.microsecond m.offset = .ok m :=
  dif_pos m.valid

theorem readChars_chars (m : Moment) : readChars m.chars = .ok m := by
  obtain ⟨⟨-, hyear⟩, ⟨-, hmonth⟩, ⟨-, hday⟩, ⟨hhour, hminute, hsecond, hmicro⟩, hoffset⟩ := m.valid
  have hlast := Calendar.daysInMonth_le m.year m.month
  have hdate := @readDate_padded ('T' :: (Text.padded 2 m.hour ++ ':' :: (Text.padded 2 m.minute ++ ':' ::
    (Text.padded 2 m.second ++ ((if m.microsecond = 0 then [] else '.' :: Text.padded 6 m.microsecond) ++
      offsetText m.offset))))) m.year m.month m.day (by omega) (by omega) (by omega)
  have hclock := readClock_text (show m.hour < 100 by omega) (show m.minute < 100 by omega)
    (show m.second < 100 by omega) hmicro m.offset
  rw [readChars, chars, hdate]
  dsimp only
  rw [if_pos (show isDateSeparator 'T' = true from rfl), hclock]
  dsimp only
  rw [readOffset_offsetText hoffset]
  exact ofParts_self m

/-- **The text of a moment is read as the moment.** -/
theorem ofString_text (m : Moment) : ofString m.text = .ok m := by
  rw [ofString, text, String.toList_ofList, readChars_chars]

end ScanAdapter.Moment
