/-!
# Decimal numerals

Natural numbers and integers as decimal digits. A natural number is written with the fewest digits.
Reading an integer between two bounds stops at the first character that is no digit or that takes
the number past a bound, and says which.
-/

namespace VersionedStore.Text.Decimal

/-- The character of a digit below ten. -/
def digitChar (d : Nat) : Char := Char.ofNat (48 + d)

/-- The number below ten that a digit stands for. -/
def digit? (c : Char) : Option Nat :=
  if 48 ≤ c.toNat ∧ c.toNat ≤ 57 then some (c.toNat - 48) else none

/-- The digits of a number, most significant first. -/
def digits (n : Nat) : List Char :=
  if n < 10 then [digitChar n] else digits (n / 10) ++ [digitChar (n % 10)]

/-- The text of a natural number. -/
def ofNat (n : Nat) : String := String.ofList (digits n)

/-- The characters of an integer: a minus sign where it is negative, and its digits. -/
def intChars : Int → List Char
  | .ofNat n => digits n
  | .negSucc n => '-' :: digits (n + 1)

/-- The text of an integer. -/
def ofInt (n : Int) : String := String.ofList (intChars n)

/-- The digits of a number, with zeros in front up to a width. -/
def padded (width n : Nat) : List Char :=
  List.replicate (width - (digits n).length) '0' ++ digits n

/-- The number that a row of digits stands for; another character counts as zero. -/
def value (cs : List Char) : Nat := cs.foldl (fun n c ↦ 10 * n + (digit? c).getD 0) 0

/-- The worth of a digit with so many digits after it. -/
def weight (places : Nat) : Nat := Nat.pow 10 places

/-- Why a text is not an integer between the bounds. -/
inductive Fault where
  | empty
  | notADigit
  | tooLarge
  | tooSmall
  deriving DecidableEq, Repr

/-- The sentence for a fault. -/
def Fault.message : Fault → String
  | .empty => "cannot parse integer from empty string"
  | .notADigit => "invalid digit found in string"
  | .tooLarge => "number too large to fit in target type"
  | .tooSmall => "number too small to fit in target type"

/-- Read digits into a number that may not pass `limit`; `past` is the fault for one that does. -/
def readBelow (limit : Nat) (past : Fault) : Nat → List Char → Except Fault Nat
  | n, [] => .ok n
  | n, c :: cs =>
    match digit? c with
    | none => .error .notADigit
    | some d => if 10 * n + d ≤ limit then readBelow limit past (10 * n + d) cs else .error past

/-- Read a signed integer of 64 bits: an optional sign and at least one digit. -/
def readInt64 (s : String) : Except Fault Int :=
  match s.toList with
  | [] => .error .empty
  | ['+'] | ['-'] => .error .notADigit
  | '-' :: cs => (readBelow 0x8000000000000000 .tooSmall 0 cs).map fun n ↦ -(n : Int)
  | '+' :: cs => (readBelow 0x7fffffffffffffff .tooLarge 0 cs).map Int.ofNat
  | cs => (readBelow 0x7fffffffffffffff .tooLarge 0 cs).map Int.ofNat

private theorem digit?_digitChar_all : ∀ d : Fin 10, digit? (digitChar d.val) = some d.val := by
  decide

/-- The character of a digit stands for the digit. -/
theorem digit?_digitChar {d : Nat} (h : d < 10) : digit? (digitChar d) = some d :=
  digit?_digitChar_all ⟨d, h⟩

/-- A numeral has at least one digit. -/
theorem digits_ne_nil (n : Nat) : digits n ≠ [] := by
  rw [digits]
  split <;> simp

/-- A numeral holds digits only. -/
theorem digit?_of_mem_digits (n : Nat) : ∀ c ∈ digits n, (digit? c).isSome = true := by
  induction n using Nat.strongRecOn with
  | _ n ih =>
    intro c hc
    rw [digits] at hc
    split at hc
    · next h => simp_all [digit?_digitChar]
    · next h =>
      rcases List.mem_append.mp hc with hc | hc
      · exact ih (n / 10) (by omega) c hc
      · rw [List.mem_singleton.mp hc, digit?_digitChar (Nat.mod_lt _ (by omega))]
        rfl

/-- A row of digits followed by one more stands for ten times as much and the last digit. -/
theorem value_append_singleton (cs : List Char) (c : Char) :
    value (cs ++ [c]) = 10 * value cs + (digit? c).getD 0 := by
  simp [value]

/-- The numeral of a number stands for it. -/
theorem value_digits (n : Nat) : value (digits n) = n := by
  induction n using Nat.strongRecOn with
  | _ n ih =>
    rw [digits]
    split
    · next h => simp [value, digit?_digitChar h]
    · next h =>
      rw [value_append_singleton, ih (n / 10) (by omega), digit?_digitChar (Nat.mod_lt _ (by omega))]
      simp only [Option.getD_some]
      omega

/-- Numbers with the same numeral are equal. -/
theorem digits_injective {m n : Nat} (h : digits m = digits n) : m = n := by
  rw [← value_digits m, h, value_digits]

end VersionedStore.Text.Decimal
