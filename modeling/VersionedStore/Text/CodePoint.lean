/-!
# Sets of code points

A property of characters is a list of stretches, each an arithmetic progression of code points. The
tables of the Unicode properties that this library needs are written in this form, one module each.
-/

namespace VersionedStore.Text

/-- The code points `first`, `first + step`, … up to `last`. -/
structure Stretch where
  first : Nat
  last : Nat
  step : Nat
  deriving DecidableEq, Repr

/-- Does the stretch hold this code point? -/
def Stretch.contains (s : Stretch) (n : Nat) : Bool :=
  s.first ≤ n && n ≤ s.last && (n - s.first) % s.step == 0

/-- Does one of the stretches hold this character? -/
def inStretches (table : List Stretch) (c : Char) : Bool :=
  table.any fun s ↦ s.contains c.toNat

/-- No character lies in the empty table. -/
theorem inStretches_nil (c : Char) : inStretches [] c = false := rfl

/-- A character lies in a table when it lies in the first stretch or in the others. -/
theorem inStretches_cons (s : Stretch) (table : List Stretch) (c : Char) :
    inStretches (s :: table) c = (s.contains c.toNat || inStretches table c) := rfl

/-- The code of a character in lower case. -/
theorem toNat_toLower (c : Char) :
    c.toLower.toNat = if 65 ≤ c.toNat ∧ c.toNat ≤ 90 then c.toNat + 32 else c.toNat := by
  unfold Char.toLower
  split
  · next h =>
    have capital : 65 ≤ c.toNat ∧ c.toNat ≤ 90 := h
    rw [if_pos capital]
    show (c.val + 32).toNat = _
    rw [UInt32.toNat_add]
    show (c.toNat + 32) % 4294967296 = _
    omega
  · next h =>
    have other : ¬(65 ≤ c.toNat ∧ c.toNat ≤ 90) := h
    rw [if_neg other]

/-- A character whose code lies outside the small letters is that of no other in lower case. -/
theorem eq_of_toLower {c d : Char} (plain : d.toNat < 97 ∨ 122 < d.toNat)
    (h : c.toLower = d) : c = d := by
  have code := toNat_toLower c
  rw [h] at code
  apply Char.toNat_inj.mp
  split at code <;> omega

end VersionedStore.Text
