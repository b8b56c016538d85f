/-!
# Hexadecimal digits

A digit is a number below sixteen. It is written in lower case and read in either case.
-/

namespace VersionedStore.Text

/-- A hexadecimal digit. -/
abbrev HexDigit := Fin 16

namespace HexDigit

/-- The last digit of a number. -/
def ofNat (n : Nat) : HexDigit := ⟨n % 16, Nat.mod_lt n (by decide)⟩

/-- The lower-case character of a digit. -/
def toChar (d : HexDigit) : Char :=
  if d.val < 10 then Char.ofNat (48 + d.val) else Char.ofNat (87 + d.val)

/-- The digit that a character stands for, in either case. -/
def ofChar? (c : Char) : Option HexDigit :=
  let n := c.toNat
  if h : 48 ≤ n ∧ n ≤ 57 then some ⟨n - 48, by omega⟩
  else if h : 97 ≤ n ∧ n ≤ 102 then some ⟨n - 87, by omega⟩
  else if h : 65 ≤ n ∧ n ≤ 70 then some ⟨n - 55, by omega⟩
  else none

/-- Reading the character of a digit gives the digit back. -/
theorem ofChar?_toChar (d : HexDigit) : ofChar? d.toChar = some d := by
  revert d
  decide

end HexDigit

/-- The number that a row of digits stands for, most significant digit first. -/
def hexValue (ds : List HexDigit) : Nat := ds.foldl (fun n d ↦ 16 * n + d.val) 0

/-- The digits of a number, without leading zeros; zero is one digit. -/
def hexDigits (n : Nat) : List HexDigit :=
  if n < 16 then [.ofNat n] else hexDigits (n / 16) ++ [.ofNat n]

/-- The lower-case hexadecimal text of a number. -/
def hexText (n : Nat) : String := String.ofList ((hexDigits n).map HexDigit.toChar)

/-- The bytes that pairs of digits stand for. -/
def hexBytes? : List Char → Option (List UInt8)
  | [] => some []
  | [_] => none
  | a :: b :: cs => do
    let high ← HexDigit.ofChar? a
    let low ← HexDigit.ofChar? b
    let bytes ← hexBytes? cs
    some (UInt8.ofNat (hexValue [high, low]) :: bytes)

/-- The digits of a number stand for it. -/
theorem hexValue_hexDigits (n : Nat) : hexValue (hexDigits n) = n := by
  induction n using Nat.strongRecOn with
  | _ n ih =>
    rw [hexDigits]
    split
    · next h => simp [hexValue, HexDigit.ofNat, Nat.mod_eq_of_lt h]
    · next h =>
      have := ih (n / 16) (by omega)
      simp only [hexValue, List.foldl_append, List.foldl_cons, List.foldl_nil] at this ⊢
      rw [this]
      simp only [HexDigit.ofNat]
      omega

end VersionedStore.Text
