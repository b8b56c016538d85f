import VersionedStore.Text.Blank
import VersionedStore.Text.Decimal

/-!
# Numerals in a text

A numeral is a row of digits, at least one. Where no digit follows it, it is told from what follows,
so that a reader of digits takes exactly the numeral.
-/

namespace VersionedStore.Text.Decimal

/-- A row of digits, at least one. -/
structure Numeral (ds : List Char) : Prop where
  ne_nil : ds ≠ []
  digits : ∀ c ∈ ds, (digit? c).isSome = true

/-- The text does not begin with a digit. -/
def Apart (rest : List Char) : Prop := ∀ c ∈ rest.head?, digit? c = none

/-- A text is apart from a numeral when its first character is no digit. -/
theorem apart_cons {c : Char} {rest : List Char} : Apart (c :: rest) ↔ digit? c = none := by
  simp [Apart]

/-- The numeral of a number is one. -/
theorem numeral_digits (n : Nat) : Numeral (digits n) := ⟨digits_ne_nil n, digit?_of_mem_digits n⟩

/-- A padded numeral is one. -/
theorem numeral_padded (width n : Nat) : Numeral (padded width n) where
  ne_nil := by simp [padded, digits_ne_nil]
  digits := by
    intro c hc
    rcases List.mem_append.mp hc with hc | hc
    · rw [List.eq_of_mem_replicate hc]
      decide
    · exact digit?_of_mem_digits n c hc

private theorem value_zeros (k : Nat) (cs : List Char) : value
    (List.replicate k '0' ++ cs) = value cs := by
  induction k with
  | zero => rfl
  | succ k ih => exact ih

/-- A padded numeral stands for its number. -/
theorem value_padded (width n : Nat) : value (padded width n) = n := by
  rw [padded, value_zeros, value_digits]

private theorem length_digits_le {width n : Nat} (places : 0 < width) (h : n < weight width) :
    (digits n).length ≤ width := by
  induction width generalizing n with
  | zero => exact absurd places (Nat.lt_irrefl 0)
  | succ width ih =>
    rw [digits]
    split
    · simp
    · next large =>
      have wider : weight (width + 1) = weight width * 10 := rfl
      have fewer : 0 < width := by
        rcases Nat.eq_zero_or_pos width with rfl | pos
        · exact absurd h (by simpa [weight] using large)
        · exact pos
      have := ih fewer (n := n / 10) (by omega)
      rw [List.length_append, List.length_singleton]
      omega

/-- A number that fits a width is padded to it. -/
theorem length_padded {width n : Nat} (places : 0 < width) (h : n < weight width) :
    (padded width n).length = width := by
  have := length_digits_le places h
  rw [padded, List.length_append, List.length_replicate]
  omega

/-- The digits at the front of a text are those of the numeral before what is apart. -/
theorem takeWhile_numeral {ds rest : List Char} (numeral : Numeral ds) (apart : Apart rest) :
    ((ds ++ rest).takeWhile fun c ↦ (digit? c).isSome) = ds := by
  rw [List.takeWhile_append_of_pos numeral.digits]
  cases rest with
  | nil => simp
  | cons c rest => simp [apart_cons.mp apart]

/-- Behind the digits at the front of a text follows what is apart from the numeral. -/
theorem dropWhile_numeral {ds rest : List Char} (numeral : Numeral ds) (apart : Apart rest) :
    ((ds ++ rest).dropWhile fun c ↦ (digit? c).isSome) = rest := by
  rw [List.dropWhile_append_of_pos numeral.digits]
  cases rest with
  | nil => rfl
  | cons c rest => simp [apart_cons.mp apart]

private theorem isBlank_of_digit {c : Char} (h : (digit? c).isSome = true) : isBlank c = false := by
  unfold digit? at h
  split at h
  · next bounds =>
    simp only [isBlank, blankStretches, inStretches_cons, inStretches_nil, Stretch.contains]
    grind
  · cases h

/-- A text that begins with a numeral is not trimmed. -/
theorem trimLeft_numeral {ds : List Char} (numeral : Numeral ds) (rest : List Char) :
    trimLeft (ds ++ rest) = ds ++ rest := by
  cases ds with
  | nil => exact absurd rfl numeral.ne_nil
  | cons d ds =>
    exact trimLeft_cons_of_not_blank (isBlank_of_digit (numeral.digits d List.mem_cons_self)) _

end VersionedStore.Text.Decimal
