import VersionedStore.Text.Decimal

/-!
# Finite binary floating-point numbers

A finite double is its sign, a mantissa below `2 ^ 53` and a power of two. Rounding takes a quotient
of natural numbers to the nearest double, a tie to the even mantissa. The shortest text of a double
has the fewest digits that round back to it, and of those the digits nearest to it.
-/

namespace VersionedStore

/-- The finite double `mantissa * 2 ^ (exponent - 1074)`, negated when `negative`. -/
structure Double where
  negative : Bool
  mantissa : Nat
  exponent : Nat
  deriving DecidableEq, Repr, Inhabited

open Text.Decimal

namespace Double

/-- The number of bits below the leading one of a mantissa. -/
def fractionBits : Nat := 52

/-- The largest exponent of a finite double. -/
def maxExponent : Nat := 2045

/-- Zero with a sign. -/
def zero (negative : Bool) : Double := ⟨negative, 0, 0⟩

/-- The same magnitude with the sign turned. -/
def negate (x : Double) : Double := { x with negative := !x.negative }

/-- Do two doubles compare as equal? The two zeros do. -/
def same (x y : Double) : Bool := x == y || (x.mantissa == 0 && y.mantissa == 0)

/-- The quotient rounded to the nearest natural number, a tie to the even one. -/
def roundQuotient (num den : Nat) : Nat :=
  let q := num / den
  let r := num % den
  if 2 * r < den then q else if den < 2 * r then q + 1 else if q % 2 = 0 then q else q + 1

/-- The exponent of the binary digit that leads the quotient, counted from `2 ^ (-1074)`; quotients
below the least normal number count as that number. -/
def leadingExponent (num den : Nat) : Nat :=
  let scaled := (num <<< 1074) / den
  if scaled < Nat.pow 2 52 then 0 else scaled.log2 - 52

/-- The nearest double to a quotient; none when it lies past the largest one. -/
def ofQuotient (negative : Bool) (num den : Nat) : Option Double :=
  let e := leadingExponent num den
  let m := roundQuotient (num <<< 1074) (den <<< e)
  let (m, e) := if m = Nat.pow 2 53 then (Nat.pow 2 52, e + 1) else (m, e)
  if e ≤ maxExponent then some ⟨negative, m, e⟩ else none

/-- The nearest double to a natural number. -/
def ofNat? (n : Nat) : Option Double := ofQuotient false n 1

/-- The product, rounded; the sign is the first factor's. -/
def times (x y : Double) : Option Double :=
  ofQuotient x.negative ((x.mantissa * y.mantissa) <<< (x.exponent + y.exponent))
    (Nat.pow 2 2148)

/-- The quotient by a double other than zero, rounded; the sign is the dividend's. -/
def dividedBy (x y : Double) : Option Double :=
  ofQuotient x.negative (x.mantissa <<< x.exponent) (y.mantissa <<< y.exponent)

/-- The nearest double to a power of ten up to `10 ^ 308`. -/
def powerOfTen (n : Nat) : Double := (ofNat? (weight n)).getD (zero false)

/-- A decimal with a significand below `2 ^ 64`: the significand is rounded first and the power of
ten is applied to it, rounding again; a power below `10 ^ (-308)` is applied in steps. -/
def scaled (steps : Nat) (x : Double) (exponent : Int) : Option Double :=
  if exponent.natAbs ≤ 308 then
    if 0 ≤ exponent then x.times (powerOfTen exponent.natAbs)
    else x.dividedBy (powerOfTen exponent.natAbs)
  else if x.mantissa = 0 then some x
  else if 0 ≤ exponent then none
  else match steps with
    | 0 => some (zero x.negative)
    | steps + 1 => (x.dividedBy (powerOfTen 308)).bind fun y ↦ scaled steps y (exponent + 308)

/-- The double read from a significand and a power of ten. A nonzero double is gone after three
steps of `10 ^ (-308)`. -/
def ofDecimal (negative : Bool) (significand : Nat) (exponent : Int) : Option Double := do
  let x ← ofNat? significand
  let y ← scaled 3 x exponent
  return { y with negative := negative }

/-- Magnitude as a quotient over a common power of two: twice the mantissa's unit is exact. -/
def magnitude (x : Double) : Nat × Nat := (x.mantissa <<< x.exponent, Nat.pow 2 1074)

/-- The decimal exponent of the leading digit of a positive quotient. -/
def decimalExponent (num den : Nat) : Int :=
  if den ≤ num then (digits (num / den)).length - 1
  else
    let k := (digits (den / num)).length
    if den ≤ num * weight (k - 1) then -((k : Int) - 1) else -(k : Int)

/-- Does the decimal `d * 10 ^ k` round to the double? The interval reaches half way to each
neighbour and holds its ends when the mantissa is even. -/
def roundsTo (x : Double) (d : Nat) (k : Int) : Bool :=
  let num := if 0 ≤ k then (d * weight k.natAbs) <<< 1076 else d <<< 1076
  let den := if 0 ≤ k then 1 else weight k.natAbs
  let unit := Nat.pow 2 x.exponent
  let step := if x.mantissa = Nat.pow 2 52 ∧ 0 < x.exponent then unit else 2 * unit
  let low := 4 * x.mantissa * unit - step
  let high := 4 * x.mantissa * unit + 2 * unit
  if x.mantissa % 2 = 0 then low * den ≤ num && num ≤ high * den
  else low * den < num && num < high * den

/-- The digits with `n` places nearest to the double from below and from above. -/
def neighbours (x : Double) (k : Int) : Nat × Nat :=
  let (num, den) := x.magnitude
  let below := if 0 ≤ k then num / (den * weight k.natAbs) else num * weight k.natAbs / den
  (below, below + 1)

/-- Twice the distance to the lower neighbour against the grid's width: is the upper one nearer? -/
def upperIsNearer (x : Double) (below : Nat) (k : Int) : Bool :=
  let (num, den) := x.magnitude
  let a := if 0 ≤ k then 2 * num else 2 * num * weight k.natAbs
  let b := if 0 ≤ k then (2 * below + 1) * den * weight k.natAbs else (2 * below + 1) * den
  b < a || (a == b && below % 2 == 1)

/-- Digits and power of ten of the shortest decimal, trying one more digit at a time. -/
def shortestFrom (x : Double) (lead : Int) : Nat → Nat → Nat × Int
  | 0, n => (let k := lead + 1 - n; ((x.neighbours k).1, k))
  | tries + 1, n =>
    let k := lead + 1 - n
    let (below, above) := x.neighbours k
    match x.roundsTo below k, x.roundsTo above k with
    | true, true => if x.upperIsNearer below k then (above, k) else (below, k)
    | true, false => (below, k)
    | false, true => (above, k)
    | false, false => shortestFrom x lead tries (n + 1)

/-- Digits without the zeros at their end, which move into the power of ten. -/
def dropZeros : Nat → Nat → Int → Nat × Int
  | 0, d, k => (d, k)
  | fuel + 1, d, k => if d % 10 = 0 ∧ d ≠ 0 then dropZeros fuel (d / 10) (k + 1) else (d, k)

/-- The shortest decimal of a nonzero double. -/
def shortest (x : Double) : Nat × Int :=
  let (num, den) := x.magnitude
  let (d, k) := shortestFrom x (decimalExponent num den) 17 1
  dropZeros 20 d k

/-- The magnitude's text. The point stands among the digits for numbers from `10 ^ (-5)` up to
`10 ^ 16`, with at least one digit on either side; other numbers have an exponent. -/
def magnitudeChars (x : Double) : List Char :=
  if x.mantissa = 0 then ['0', '.', '0']
  else
    let (d, k) := x.shortest
    let ds := digits d
    let point : Int := ds.length + k
    if 0 ≤ k ∧ point ≤ 16 then ds ++ List.replicate k.natAbs '0' ++ ['.', '0']
    else if 0 < point ∧ point ≤ 16 then ds.take point.natAbs ++ '.' :: ds.drop point.natAbs
    else if -5 < point ∧ point ≤ 0 then
      ['0', '.'] ++ List.replicate point.natAbs '0' ++ ds
    else
      let mantissa := match ds with
        | [] => []
        | [c] => [c]
        | c :: rest => c :: '.' :: rest
      mantissa ++ 'e' :: (if 0 < point then ['+'] else []) ++ intChars (point - 1)

/-- The shortest text that reads back. -/
def chars (x : Double) : List Char :=
  if x.negative then '-' :: x.magnitudeChars else x.magnitudeChars

/-- A double is the same as itself. -/
theorem same_self (x : Double) : x.same x = true := by simp [same]

/-- Doubles that are the same and have one sign are equal, unless they are zeros. -/
theorem eq_of_same {x y : Double} (h : x.same y = true) (nonzero : x.mantissa ≠ 0) : x = y := by
  simp only [same, Bool.or_eq_true, Bool.and_eq_true, beq_iff_eq] at h
  rcases h with h | h
  · exact h
  · exact absurd h.1 nonzero

end Double

end VersionedStore
