import VersionedStore.Json.Printer
import VersionedStore.Json.Scanner
import VersionedStore.Proofs.Text.Numerals

/-!
# The tokens of JSON text

A string reads back from its escaped characters, and an integer of a JSON number from its digits,
provided that what follows does not go on with the number.
-/

namespace VersionedStore.Json

open Text
open Text.Decimal

/-- What follows does not go on with a number. -/
def Closed (rest : List Char) : Prop :=
  ∀ c ∈ rest.head?, digit? c = none ∧ c ≠ '.' ∧ c ≠ 'e' ∧ c ≠ 'E'

/-- Nothing goes on with no number. -/
theorem closed_nil : Closed [] := fun _ h ↦ nomatch h

/-- Where the first character does not go on with a number, the text does not. -/
theorem closed_cons {c : Char} {rest : List Char} :
    Closed (c :: rest) ↔ digit? c = none ∧ c ≠ '.' ∧ c ≠ 'e' ∧ c ≠ 'E' := by
  simp [Closed]

/-- What does not go on with a number is apart from its digits. -/
theorem Closed.apart {rest : List Char} (h : Closed rest) : Apart rest := fun c hc ↦ (h c hc).1

/-! ### Strings -/

private theorem readHex_control {n : Nat} (small : n < 0x20) (rest : List Char) :
    readHex ('0' :: '0' :: (HexDigit.ofNat (n / 16)).toChar :: (HexDigit.ofNat n).toChar :: rest) =
      .ok (n, rest) := by
  have digits : ['0', '0', (HexDigit.ofNat (n / 16)).toChar, (HexDigit.ofNat n).toChar].mapM
      HexDigit.ofChar? = some [0, 0, HexDigit.ofNat (n / 16), HexDigit.ofNat n] := by
    have zero : HexDigit.ofChar? '0' = some 0 := by decide
    simp [zero, HexDigit.ofChar?_toChar]
  have worth : hexValue [0, 0, HexDigit.ofNat (n / 16), HexDigit.ofNat n] = n := by
    simp only [hexValue, List.foldl_cons, List.foldl_nil, HexDigit.ofNat]
    change 16 * (16 * (16 * (16 * 0 + 0) + 0) + n / 16 % 16) + n % 16 = n
    omega
  unfold readHex
  rw [show ('0' :: '0' :: (HexDigit.ofNat (n / 16)).toChar :: (HexDigit.ofNat n).toChar ::
    rest).take 4 = ['0', '0', (HexDigit.ofNat (n / 16)).toChar, (HexDigit.ofNat n).toChar] from rfl,
    digits]
  simp only [worth]
  rfl

private theorem readEscape_control {c : Char} (small : c.toNat < 0x20) (rest : List Char) :
    readEscape ('u' :: '0' :: '0' :: (HexDigit.ofNat (c.toNat / 16)).toChar ::
      (HexDigit.ofNat c.toNat).toChar :: rest) = .ok (c, rest) := by
  have trailing : isTrailing c.toNat = false := by
    simp only [isTrailing, Bool.and_eq_false_iff, decide_eq_false_iff_not]
    omega
  have leading : isLeading c.toNat = false := by
    simp only [isLeading, Bool.and_eq_false_iff, decide_eq_false_iff_not]
    omega
  refine (bind_of_ok (readHex_control small rest) _).trans ?_
  simp only [trailing, leading, Bool.false_eq_true, if_false, Char.ofNat_toNat]

private theorem readStringChars_escape {c : Char} {steps : Nat} {escape cs ds rest : List Char}
    (front : readEscape escape = .ok (c, cs)) (back : readStringChars steps cs = .ok (ds, rest)) :
    readStringChars (steps + 1) ('\\' :: escape) = .ok (c :: ds, rest) :=
  (bind_of_ok front _).trans (bind_of_ok back _)

private theorem readStringChars_escapeChar (c : Char) {steps : Nat} {cs ds rest : List Char}
    (back : readStringChars steps cs = .ok (ds, rest)) :
    readStringChars (steps + 1) (escapeChar c ++ cs) = .ok (c :: ds, rest) := by
  unfold escapeChar
  split
  · next h => subst h; exact readStringChars_escape rfl back
  · next quote =>
    split
    · next h => subst h; exact readStringChars_escape rfl back
    · next slash =>
      split
      · next h => subst h; exact readStringChars_escape rfl back
      · split
        · next h => subst h; exact readStringChars_escape rfl back
        · split
          · next h => subst h; exact readStringChars_escape rfl back
          · split
            · next h => subst h; exact readStringChars_escape rfl back
            · split
              · next h => subst h; exact readStringChars_escape rfl back
              · split
                · next small => exact readStringChars_escape (readEscape_control small cs) back
                · next large =>
                  rw [List.singleton_append, readStringChars, if_neg quote, if_neg slash,
                    if_neg large]
                  exact bind_of_ok back _

private theorem readStringChars_flatMap (cs rest : List Char) {steps : Nat}
    (enough : cs.length < steps) :
    readStringChars steps (cs.flatMap escapeChar ++ '"' :: rest) = .ok (cs, rest) := by
  induction cs generalizing steps with
  | nil =>
    obtain ⟨steps, rfl⟩ := Nat.exists_eq_add_of_lt enough
    rfl
  | cons c cs ih =>
    cases steps with
    | zero => exact absurd enough (Nat.not_lt_zero _)
    | succ steps =>
      rw [List.flatMap_cons, List.append_assoc]
      exact readStringChars_escapeChar c (ih (Nat.lt_of_succ_lt_succ enough))

private theorem escapeChar_ne_nil (c : Char) : escapeChar c ≠ [] := by
  unfold escapeChar
  repeat' split
  all_goals exact List.cons_ne_nil _ _

private theorem length_le_flatMap (cs : List Char) :
    cs.length ≤ (cs.flatMap escapeChar).length := by
  induction cs with
  | nil => exact Nat.le_refl _
  | cons c cs ih =>
    have := List.length_pos_iff.mpr (escapeChar_ne_nil c)
    rw [List.flatMap_cons, List.length_append, List.length_cons]
    omega

/-- A string is read behind its opening quote. -/
theorem readString_escaped (s : String) (rest : List Char) :
    readString (s.toList.flatMap escapeChar ++ '"' :: rest) = .ok (s, rest) := by
  have enough : s.toList.length < (s.toList.flatMap escapeChar ++ '"' :: rest).length + 1 := by
    have := length_le_flatMap s.toList
    rw [List.length_append]
    omega
  have read := readStringChars_flatMap s.toList rest enough
  refine (bind_of_ok read _).trans ?_
  exact congrArg (fun t ↦ Except.ok (t, rest)) String.ofList_toList

/-! ### Integers -/

private theorem le_foldl (cs : List Char) (n : Nat) :
    n ≤ cs.foldl (fun n c ↦ 10 * n + (digit? c).getD 0) n := by
  induction cs generalizing n with
  | nil => exact Nat.le_refl n
  | cons c cs ih =>
    have step : n ≤ 10 * n + (digit? c).getD 0 := by omega
    exact Nat.le_trans step (ih _)

private theorem accumulate_foldl (cs : List Char) (n : Nat)
    (small : cs.foldl (fun n c ↦ 10 * n + (digit? c).getD 0) n < significandLimit) :
    accumulate n cs = (cs.foldl (fun n c ↦ 10 * n + (digit? c).getD 0) n, []) := by
  induction cs generalizing n with
  | nil => rfl
  | cons c cs ih =>
    rw [accumulate, if_pos (Nat.lt_of_le_of_lt (le_foldl cs _) small)]
    exact ih _ small

private theorem accumulate_digits {n : Nat} (small : n < significandLimit) :
    accumulate 0 (digits n) = (n, []) := by
  have worth : (digits n).foldl (fun n c ↦ 10 * n + (digit? c).getD 0) 0 = n := value_digits n
  rw [accumulate_foldl (digits n) 0 (by rwa [worth]), worth]

private theorem head_digits {n : Nat} (pos : 0 < n) : ∃ c cs, digits n = c :: cs ∧ c ≠ '0' := by
  induction n using Nat.strongRecOn with
  | _ n ih =>
    rw [digits]
    split
    · next one =>
      refine ⟨digitChar n, [], rfl, fun zero ↦ ?_⟩
      have back := digit?_digitChar one
      rw [zero] at back
      exact absurd (Option.some.inj back) (Nat.ne_of_lt pos)
    · next more =>
      obtain ⟨c, cs, front, nonzero⟩ := ih (n / 10) (by omega) (by omega)
      exact ⟨c, cs ++ [digitChar (n % 10)], by rw [front]; rfl, nonzero⟩

private theorem readNumberEnd_closed (negative : Bool) {n : Nat} (small : n < significandLimit)
    {rest : List Char} (closed : Closed rest) :
    readNumberEnd negative (digits n) rest = .ok (makeInteger negative n, rest) := by
  unfold readNumberEnd
  rw [accumulate_digits small]
  simp only
  split
  · exact absurd rfl (closed_cons.mp closed).2.1
  · exact absurd rfl (closed_cons.mp closed).2.2.1
  · exact absurd rfl (closed_cons.mp closed).2.2.2
  · rfl

/-- A number is read from its digits. -/
theorem readUnsigned_digits (negative : Bool) {n : Nat} (small : n < significandLimit)
    {rest : List Char} (closed : Closed rest) :
    readUnsigned negative (digits n ++ rest) = .ok (makeInteger negative n, rest) := by
  have numeral := numeral_digits n
  rcases Nat.eq_zero_or_pos n with rfl | pos
  · have finished : ¬ (rest.head?.map isDigit).getD false = true := by
      cases rest with
      | nil => exact Bool.false_ne_true
      | cons c rest => simp [isDigit, (closed_cons.mp closed).1]
    have zero : digits 0 = ['0'] := by rw [digits]; rfl
    have read := readNumberEnd_closed negative small closed
    rw [zero] at read ⊢
    exact (if_neg finished).trans read
  · obtain ⟨c, cs, front, nonzero⟩ := head_digits pos
    have span : spanDigits (digits n ++ rest) = (digits n, rest) :=
      Prod.ext (takeWhile_numeral numeral closed.apart) (dropWhile_numeral numeral closed.apart)
    have digit : isDigit c = true := numeral.digits c (front ▸ List.mem_cons_self)
    have read := readNumberEnd_closed negative small closed
    rw [front, List.cons_append] at span ⊢
    rw [front] at read
    unfold readUnsigned
    split
    · next nothing => cases nothing
    · next zero => exact absurd (List.cons.inj zero).1 nonzero
    · next c' cs' other eq =>
      obtain ⟨rfl, rfl⟩ := List.cons.inj eq
      rw [if_pos digit, span]
      exact read

/-- The integers that a JSON number holds: those of 64 bits, with or without a sign. -/
def Fits (n : Int) : Prop := -0x8000000000000000 ≤ n ∧ n < 0x10000000000000000

instance (n : Int) : Decidable (Fits n) :=
  inferInstanceAs (Decidable (-0x8000000000000000 ≤ n ∧ n < 0x10000000000000000))

/-- The characters of an integer are its digits, behind a minus sign where it is negative. -/
theorem intChars_cases {n : Int} (fits : Fits n) :
    (∃ k, k < significandLimit ∧ Text.Decimal.intChars n = digits k ∧
      makeInteger false k = .int n) ∨
    (∃ k, k < significandLimit ∧ Text.Decimal.intChars n = '-' :: digits k ∧
      makeInteger true k = .int n) := by
  cases n with
  | ofNat k =>
    have small : k < 0x10000000000000000 := Int.ofNat_lt.mp fits.2
    exact .inl ⟨k, small, rfl, rfl⟩
  | negSucc k =>
    have bound : k + 1 ≤ 0x8000000000000000 := by
      have := fits.1
      omega
    have small : k + 1 < significandLimit := Nat.lt_of_le_of_lt bound (by decide)
    refine .inr ⟨k + 1, small, rfl, ?_⟩
    have whole : ¬ (k + 1 = 0 ∨ 0x8000000000000000 < k + 1) := by omega
    rw [makeInteger, if_neg whole]
    rfl

end VersionedStore.Json
