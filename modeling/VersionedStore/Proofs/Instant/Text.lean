import VersionedStore.Instant.Rfc3339
import VersionedStore.Proofs.Text.Numerals

/-!
# The text of an instant reads as the instant

Reading goes from part to part, and each part of an instant's text is a mark or a numeral that no
digit follows, so every reader takes exactly what was written for it.
-/

namespace VersionedStore.Instant

open Text (isBlank trimLeft trimLeft_cons_of_not_blank)
open Text.Decimal

private theorem apart_take {rest : List Char} (apart : Apart rest) (k : Nat) :
    Apart (rest.take k) := by
  cases rest with
  | nil => simpa using apart
  | cons c rest =>
    cases k with
    | zero => simp [Apart]
    | succ k => exact apart

/-- A reader of digits takes a numeral that is no longer than it may be. -/
theorem readDigits_numeral {ds rest : List Char} {max : Nat} (numeral : Numeral ds)
    (fits : ds.length ≤ max) (apart : Apart rest) :
    readDigits max (ds ++ rest) = .ok (value ds, rest) := by
  have front : (ds ++ rest).take max = ds ++ rest.take (max - ds.length) := by
    rw [List.take_append, List.take_of_length_le fits]
  have taken := takeWhile_numeral numeral (apart_take apart (max - ds.length))
  have some : ds.isEmpty = false := List.isEmpty_eq_false_iff.mpr numeral.ne_nil
  unfold readDigits
  split
  · next nothing => exact absurd (List.append_eq_nil_iff.mp nothing).1 numeral.ne_nil
  · simp only [front, taken, some, Bool.false_eq_true, if_false, List.drop_left]

/-- A part of two digits is read as its number. -/
theorem readPart_padded {low high n : Nat} {rest : List Char} (bounds : low ≤ n ∧ n ≤ high)
    (small : high < 100) (apart : Apart rest) :
    readPart low high (padded 2 n ++ rest) = .ok (n, rest) := by
  have length : (padded 2 n).length = 2 :=
    length_padded (by decide) (Nat.lt_of_le_of_lt bounds.2 small)
  have read := readDigits_numeral (numeral_padded 2 n) (Nat.le_of_eq length) apart
  rw [value_padded] at read
  unfold readPart
  rw [trimLeft_numeral (numeral_padded 2 n), bind_of_ok read]
  exact if_pos bounds

/-- A part of two digits is read behind its mark. -/
theorem readMark_readPart {c : Char} (solid : isBlank c = false) {low high n : Nat}
    {rest : List Char} (bounds : low ≤ n ∧ n ≤ high) (small : high < 100) (apart : Apart rest) :
    (readMark c (c :: (padded 2 n ++ rest)) >>= readPart low high) = .ok (n, rest) := by
  have mark : readMark c (c :: (padded 2 n ++ rest)) = .ok (padded 2 n ++ rest) := by
    unfold readMark
    rw [trimLeft_cons_of_not_blank solid]
    exact if_pos rfl
  rw [bind_of_ok mark, readPart_padded bounds small apart]

private theorem numeral_append_ne {ds : List Char} (numeral : Numeral ds) {c : Char}
    (other : digit? c = none) {rest tail : List Char} : ds ++ rest ≠ c :: tail := by
  intro eq
  cases ds with
  | nil => exact numeral.ne_nil rfl
  | cons d ds =>
    have digit := numeral.digits d List.mem_cons_self
    rw [(List.cons.inj eq).1, other] at digit
    cases digit

private theorem readDigits_all (width n : Nat) {rest : List Char} (apart : Apart rest) :
    readDigits (padded width n ++ rest).length (padded width n ++ rest) = .ok (n, rest) := by
  rw [readDigits_numeral (numeral_padded width n) (by simp) apart, value_padded]

/-- A year of the calendar is read from its characters. -/
theorem readYear_yearChars {year : Int} (bounds : firstYear ≤ year ∧ year ≤ lastYear)
    {rest : List Char} (apart : Apart rest) :
    readYear (yearChars year ++ rest) = .ok (year, rest) := by
  have numeral := numeral_padded 4 year.natAbs
  simp only [firstYear, lastYear] at bounds
  unfold yearChars
  split
  · next plain =>
    have length : (padded 4 year.natAbs).length = 4 :=
      length_padded (by decide) (show year.natAbs < 10000 by omega)
    have read := readDigits_numeral numeral (Nat.le_of_eq length) apart
    have back : ((year.natAbs : Nat) : Int) = year := by omega
    unfold readYear
    rw [trimLeft_numeral numeral]
    split
    · next eq => exact absurd eq (numeral_append_ne numeral (by decide))
    · next eq => exact absurd eq (numeral_append_ne numeral (by decide))
    · rw [bind_of_ok read, value_padded]
      exact congrArg (fun y ↦ Except.ok (y, rest)) back
  · split
    · next negative =>
      have small : year.natAbs ≤ 0x80000000 := by omega
      have back : -((year.natAbs : Nat) : Int) = year := by omega
      rw [readYear, List.cons_append, trimLeft_cons_of_not_blank (by decide)]
      refine (bind_of_ok (readDigits_all 4 year.natAbs apart) _).trans ?_
      exact (if_pos small).trans (congrArg (fun y ↦ Except.ok (y, rest)) back)
    · next large =>
      have small : year.natAbs < 0x80000000 := by omega
      have back : ((year.natAbs : Nat) : Int) = year := by omega
      rw [readYear, List.cons_append, trimLeft_cons_of_not_blank (by decide)]
      refine (bind_of_ok (readDigits_all 4 year.natAbs apart) _).trans ?_
      exact (if_pos small).trans (congrArg (fun y ↦ Except.ok (y, rest)) back)

private theorem apart_zulu : Apart ['Z'] := apart_cons.mpr (by decide)

private theorem readFraction_padded {places n : Nat} (some : 0 < places) (few : places ≤ 9)
    (small : n < weight places) :
    readFraction ('.' :: padded places n ++ ['Z']) = .ok (n * weight (9 - places), ['Z']) := by
  have length := length_padded some small
  have read : readDigits 9 (padded places n ++ ['Z']) = .ok (value (padded places n), ['Z']) :=
    readDigits_numeral (numeral_padded places n) (by omega) apart_zulu
  have taken : (padded places n ++ ['Z']).length - 1 = places := by
    rw [List.length_append, length]
    exact Nat.add_sub_cancel places 1
  rw [value_padded] at read
  refine (bind_of_ok read _).trans ?_
  exact congrArg (fun k ↦ Except.ok (n * weight (9 - k), ['Z'])) taken

private theorem readFraction_fractionChars {n : Nat} (small : n < 1000000000) :
    readFraction (fractionChars n ++ ['Z']) = .ok (n, ['Z']) := by
  unfold fractionChars
  split
  · next zero =>
    rw [zero]
    rfl
  · split
    · next milli =>
      have back : n / 1000000 * weight (9 - 3) = n :=
        Nat.div_mul_cancel (Nat.dvd_of_mod_eq_zero milli)
      rw [readFraction_padded (by decide) (by decide) (show n / 1000000 < 1000 by omega), back]
    · split
      · next micro =>
        have back : n / 1000 * weight (9 - 6) = n :=
          Nat.div_mul_cancel (Nat.dvd_of_mod_eq_zero micro)
        rw [readFraction_padded (by decide) (by decide) (show n / 1000 < 1000000 by omega), back]
      · have back : n * weight (9 - 9) = n := Nat.mul_one n
        rw [readFraction_padded (by decide) (by decide) (show n < 1000000000 from small), back]

private theorem apart_fractionChars (n : Nat) : Apart (fractionChars n ++ ['Z']) := by
  unfold fractionChars
  repeat' split
  all_goals exact apart_cons.mpr (by decide)

/-- The characters of an instant read as the instant. -/
theorem readChars_chars (t : Instant) : readChars t.chars = .ok t := by
  obtain ⟨first, last, month₁, month₂, day₁, day₂⟩ := t.valid
  obtain ⟨hour, minute, second, nanosecond⟩ := t.validTime
  have days := (Date.daysIn_bounds t.year t.month).2
  have dash (rest : List Char) : Apart ('-' :: rest) := apart_cons.mpr (by decide)
  have colon (rest : List Char) : Apart (':' :: rest) := apart_cons.mpr (by decide)
  have letter (rest : List Char) : Apart ('T' :: rest) := apart_cons.mpr (by decide)
  simp only [chars, List.append_assoc, List.cons_append]
  refine (bind_of_ok (readYear_yearChars ⟨first, last⟩ (dash _)) _).trans ?_
  refine (bind_of_ok (readMark_readPart (by decide) ⟨month₁, month₂⟩ (by decide) (dash _))
    _).trans ?_
  refine (bind_of_ok (readMark_readPart (by decide) ⟨day₁, Nat.le_trans day₂ days⟩ (by decide)
    (letter _)) _).trans ?_
  refine (bind_of_ok (readPart_padded ⟨Nat.zero_le _, Nat.le_of_lt_succ hour⟩ (by decide)
    (colon _)) _).trans ?_
  refine (bind_of_ok (readMark_readPart (by decide) ⟨Nat.zero_le _, Nat.le_of_lt_succ minute⟩
    (by decide) (colon _)) _).trans ?_
  refine (bind_of_ok (readMark_readPart (by decide) ⟨Nat.zero_le _, second⟩ (by decide)
    (apart_fractionChars _)) _).trans ?_
  refine (bind_of_ok (readFraction_fractionChars nanosecond) _).trans ?_
  simp only [Date.make?_self]
  exact ofLocal_zero t

/-- The text of an instant reads as the instant. -/
theorem read_text (t : Instant) : read t.text = .ok t := by
  rw [read, text, String.toList_ofList, readChars_chars]

end VersionedStore.Instant
