import VersionedStore.Schema.Coded

/-!
# Entity versions

An object that has never been stored has version zero; the store gives it version one and counts on
with every change. The last version has no successor.
-/

namespace VersionedStore

/-- How often an object has been stored, as a number of 64 bits. -/
structure Version where
  number : Word 64
  deriving DecidableEq

namespace Version

/-- The version with this number, if it has 64 bits at most. -/
def ofNat? (n : Nat) : Option Version := if h : n < Nat.pow 2 64 then some ⟨⟨n, h⟩⟩ else none

/-- The version of an object that has never been stored. -/
def unsaved : Version := ⟨Word.zero 64⟩

/-- The version of an object that has just been stored for the first time. -/
def first : Version := ⟨⟨1, by decide⟩⟩

/-- The last version. -/
def last : Version := ⟨⟨0xffffffffffffffff, by decide⟩⟩

/-- The version after this one, if there is one. -/
def next? (v : Version) : Option Version := ofNat? (v.number.val + 1)

/-- The version after this one; the last one stays. -/
def next (v : Version) : Version := v.next?.getD v

/-- Is the object with this version still to be stored? -/
def isNew (v : Version) : Bool := v.number.val == 0

/-- The version as messages show it. -/
def text (v : Version) : String := "v" ++ Text.Decimal.ofNat v.number.val

/-- The number of a version as a text. -/
def digits (v : Version) : String := Text.Decimal.ofNat v.number.val

instance : Inhabited Version := ⟨unsaved⟩

instance : LT Version := ⟨fun v w ↦ v.number < w.number⟩

instance : LE Version := ⟨fun v w ↦ v.number ≤ w.number⟩

instance (v w : Version) : Decidable (v < w) := inferInstanceAs (Decidable (v.number < w.number))

instance (v w : Version) : Decidable (v ≤ w) := inferInstanceAs (Decidable (v.number ≤ w.number))

instance : Ord Version := ⟨fun v w ↦ compare v.number.val w.number.val⟩

/-- A version is written as its number. -/
instance : Coded Version where
  schema := .longWord
  toValue v := v.number
  ofValue n := ⟨n⟩
  ofValue_toValue _ := rfl
  toValue_ofValue _ := rfl

/-- Versions with the same number are equal. -/
theorem ext {v w : Version} (h : v.number.val = w.number.val) : v = w := by
  obtain ⟨n⟩ := v
  obtain ⟨m⟩ := w
  exact congrArg Version.mk (Fin.ext h)

/-- A successor counts one more. -/
theorem number_of_next? {v w : Version} (h : v.next? = some w) :
    w.number.val = v.number.val + 1 := by
  simp only [next?, ofNat?] at h
  split at h
  · cases h
    rfl
  · cases h

/-- Exactly the last version has no successor. -/
theorem next?_eq_none_iff {v : Version} : v.next? = none ↔ v = last := by
  simp only [next?, ofNat?]
  split
  · next h =>
    simp only [reduceCtorEq, false_iff]
    rintro rfl
    exact absurd h (by decide)
  · next h =>
    simp only [true_iff]
    apply ext
    have below : v.number.val < 0x10000000000000000 := v.number.isLt
    have above : ¬ v.number.val + 1 < 0x10000000000000000 := h
    simp only [last]
    omega

/-- A version is new when it is the one of unsaved objects. -/
theorem isNew_iff {v : Version} : v.isNew = true ↔ v = unsaved := by
  simp only [isNew, beq_iff_eq]
  exact ⟨fun h ↦ ext h, fun h ↦ by rw [h]; rfl⟩

end Version

end VersionedStore
