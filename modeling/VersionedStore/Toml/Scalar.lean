import VersionedStore.Json.Double
import VersionedStore.Text.Hexadecimal

/-!
# TOML scalars

Values that are written without quotes (flags, numbers, dates and times), told apart by their
spelling. Of a value that is no flag only its kind is kept, but its spelling must be right and its
number must fit: an integer into 128 bits, a float into a double.
-/

namespace VersionedStore.Toml

open Text

/-- A value, of which only flags are kept whole. -/
inductive Value where
  | flag (b : Bool)
  | integer
  | float
  | text
  | time
  | array
  | table
  deriving DecidableEq, Repr

/-- Is the character a decimal digit? -/
def isDigit (c : Char) : Bool := (Decimal.digit? c).isSome

/-- The digits of a number whose digits may be set apart by single underscores. -/
def plainDigits? (valid : Char → Bool) : List Char → Option (List Char)
  | [] => none
  | [c] => if valid c then some [c] else none
  | c :: '_' :: rest => if valid c then (plainDigits? valid rest).map (c :: ·) else none
  | c :: rest => if valid c then (plainDigits? valid rest).map (c :: ·) else none

/-- A sign at the front, as whether it is a minus, and the rest. -/
def splitSign : List Char → Bool × List Char
  | '-' :: rest => (true, rest)
  | '+' :: rest => (false, rest)
  | cs => (false, cs)

/-- A decimal number without leading zeros. -/
def decimal? (cs : List Char) : Option (List Char) :=
  match plainDigits? isDigit cs with
  | some ('0' :: _ :: _) => none
  | ds => ds

/-- Does an integer with a sign fit into 128 bits? -/
def fits (negative : Bool) (n : Nat) : Bool :=
  if negative then n ≤ Nat.pow 2 127 else n < Nat.pow 2 128

/-- The number of digits in some base. -/
def valueIn (base : Nat) (ds : List Char) : Nat :=
  ds.foldl (fun n c ↦ base * n + ((HexDigit.ofChar? c).map Fin.val).getD 0) 0

/-- Is the character a digit in some base? -/
def isDigitIn (base : Nat) (c : Char) : Bool := (HexDigit.ofChar? c).any fun d ↦ d.val < base

/-- Is it an integer that fits? -/
def isInteger (cs : List Char) : Bool :=
  let based (base : Nat) (ds : List Char) : Bool :=
    (plainDigits? (isDigitIn base) ds).any fun ds ↦ fits false (valueIn base ds)
  match cs with
  | '0' :: 'x' :: ds => based 16 ds
  | '0' :: 'o' :: ds => based 8 ds
  | '0' :: 'b' :: ds => based 2 ds
  | cs =>
    let (negative, ds) := splitSign cs
    (decimal? ds).any fun ds ↦ fits negative (valueIn 10 ds)

/-- Past this power of ten every number but zero is too large for a double, and below its opposite
none is. -/
def powerLimit : Nat := 400

/-- Does a decimal number with an exponent fit into a double? -/
def fitsDouble (digits : List Char) (exponent : Int) : Bool :=
  let n := Decimal.value digits
  if n = 0 then true
  else if powerLimit < exponent + digits.length then
    exponent ≤ powerLimit && (Double.ofQuotient false (n * Decimal.weight exponent.toNat) 1).isSome
  else if exponent < -(powerLimit + digits.length : Nat) then true
  else
    (Double.ofQuotient false (n * Decimal.weight exponent.toNat)
      (Decimal.weight (-exponent).toNat)).isSome

/-- An exponent behind its letter. -/
def exponent? (cs : List Char) : Option Int :=
  let (negative, ds) := splitSign cs
  (plainDigits? isDigit ds).map fun ds ↦
    if negative then -(Decimal.value ds : Int) else Decimal.value ds

/-- Is it a float that fits? -/
def isFloat (cs : List Char) : Bool :=
  let (_, cs) := splitSign cs
  if cs = ['i', 'n', 'f'] ∨ cs = ['n', 'a', 'n'] then true
  else
    let isExponentMark (c : Char) : Bool := c == 'e' || c == 'E'
    let number := cs.takeWhile fun c ↦ !isExponentMark c
    let exponent := match cs.dropWhile fun c ↦ !isExponentMark c with
      | [] => some 0
      | _ :: rest => exponent? rest
    let whole := number.takeWhile (· ≠ '.')
    let fraction := match number.dropWhile (· ≠ '.') with
      | [] => if number.length = cs.length then none else some []
      | _ :: rest => plainDigits? isDigit rest
    match decimal? whole, fraction, exponent with
    | some whole, some fraction, some e => fitsDouble (whole ++ fraction) (e - fraction.length)
    | _, _, _ => false

/-- A number of exactly so many digits. -/
def fixed? (width : Nat) (cs : List Char) : Option (Nat × List Char) :=
  let ds := cs.take width
  if ds.length = width ∧ ds.all isDigit then some (Decimal.value ds, cs.drop width) else none

/-- A date at the front. -/
def date? (cs : List Char) : Option (List Char) := do
  let (year, cs) ← fixed? 4 cs
  let '-' :: cs := cs | none
  let (month, cs) ← fixed? 2 cs
  let '-' :: cs := cs | none
  let (day, cs) ← fixed? 2 cs
  let leap := year % 4 = 0 ∧ (year % 100 ≠ 0 ∨ year % 400 = 0)
  let days := if month = 2 then (if leap then 29 else 28)
    else if [4, 6, 9, 11].contains month then 30 else 31
  if 1 ≤ month ∧ month ≤ 12 ∧ 1 ≤ day ∧ day ≤ days then some cs else none

/-- A time of day at the front; seconds may be left out. -/
def time? (cs : List Char) : Option (List Char) := do
  let (hour, cs) ← fixed? 2 cs
  let ':' :: cs := cs | none
  let (minute, cs) ← fixed? 2 cs
  if 23 < hour ∨ 59 < minute then none
  let ':' :: cs := cs | some cs
  let (second, cs) ← fixed? 2 cs
  if 60 < second then none
  let '.' :: cs := cs | some cs
  if (cs.takeWhile isDigit).isEmpty then none else some (cs.dropWhile isDigit)

/-- Is it an offset from UTC, or nothing? -/
def isOffset (cs : List Char) : Bool :=
  match cs with
  | [] | ['Z'] | ['z'] => true
  | c :: cs =>
    if c = '+' ∨ c = '-' then
      match fixed? 2 cs with
      | some (hours, ':' :: cs) =>
        match fixed? 2 cs with
        | some (minutes, []) => hours ≤ 23 && minutes ≤ 59
        | _ => false
      | _ => false
    else false

/-- Is it a date, a time of day, or both with an offset that may be left out? -/
def isTime (cs : List Char) : Bool :=
  match date? cs with
  | some [] => true
  | some (c :: cs) =>
    (c == 'T' || c == 't' || c == ' ') && (time? cs).any isOffset
  | none => time? cs == some []

/-- The value with this spelling. -/
def scalar? (cs : List Char) : Option Value :=
  if cs = ['t', 'r', 'u', 'e'] then some (.flag true)
  else if cs = ['f', 'a', 'l', 's', 'e'] then some (.flag false)
  else if isInteger cs then some .integer
  else if isFloat cs then some .float
  else if isTime cs then some .time
  else none

end VersionedStore.Toml
