import VersionedStore.Text.Decimal

/-!
# Instants

An instant is a valid date and time of day in UTC, down to the nanosecond; second 60 is a leap
second. Instants are ordered by their fields, the most significant first, and `key` packs the fields
into one integer with the same order.
-/

namespace VersionedStore

/-- Is the year one with 366 days? -/
def isLeapYear (year : Int) : Bool := year % 4 = 0 && (year % 100 ≠ 0 || year % 400 = 0)

/-- The number of days in a month of a year. -/
def daysIn (year : Int) (month : Nat) : Nat :=
  match month with
  | 2 => if isLeapYear year then 29 else 28
  | 4 | 6 | 9 | 11 => 30
  | _ => 31

/-- The first year of the calendar. -/
def firstYear : Int := -262143

/-- The last year of the calendar. -/
def lastYear : Int := 262142

/-- A calendar day. -/
structure Date where
  year : Int
  month : Nat
  day : Nat
  valid : firstYear ≤ year ∧ year ≤ lastYear ∧ 1 ≤ month ∧ month ≤ 12 ∧ 1 ≤ day ∧
    day ≤ daysIn year month
  deriving DecidableEq

/-- A date and time of day in UTC. -/
structure Instant extends Date where
  hour : Nat
  minute : Nat
  second : Nat
  nanosecond : Nat
  validTime : hour < 24 ∧ minute < 60 ∧ second ≤ 60 ∧ nanosecond < 1000000000
  deriving DecidableEq

namespace Date

/-- The day with these numbers, if there is one. -/
def make? (year : Int) (month day : Nat) : Option Date :=
  if h : firstYear ≤ year ∧ year ≤ lastYear ∧ 1 ≤ month ∧ month ≤ 12 ∧ 1 ≤ day ∧
      day ≤ daysIn year month then
    some ⟨year, month, day, h⟩
  else none

/-- The day after; there is none after the last one of the calendar. -/
def next? (d : Date) : Option Date :=
  if d.day < daysIn d.year d.month then make? d.year d.month (d.day + 1)
  else if d.month < 12 then make? d.year (d.month + 1) 1
  else make? (d.year + 1) 1 1

/-- The day before; there is none before the first one of the calendar. -/
def previous? (d : Date) : Option Date :=
  if 1 < d.day then make? d.year d.month (d.day - 1)
  else if 1 < d.month then make? d.year (d.month - 1) (daysIn d.year (d.month - 1))
  else make? (d.year - 1) 12 31

/-- Every month has at least 28 days and at most 31. -/
theorem daysIn_bounds (year : Int) (month : Nat) :
    28 ≤ daysIn year month ∧ daysIn year month ≤ 31 := by
  unfold daysIn
  split
  · split <;> decide
  all_goals decide

/-- A day is made of its own numbers. -/
theorem make?_self (d : Date) : make? d.year d.month d.day = some d := by
  simp [make?, d.valid]

end Date

namespace Instant

/-- The fields packed into one integer, the year in front. -/
def key (t : Instant) : Int :=
  (((((t.year * 13 + t.month) * 32 + t.day) * 24 + t.hour) * 60 + t.minute) * 61 + t.second) *
    1000000000 + t.nanosecond

instance : LT Instant := ⟨fun a b ↦ a.key < b.key⟩

instance : LE Instant := ⟨fun a b ↦ a.key ≤ b.key⟩

instance (a b : Instant) : Decidable (a < b) := inferInstanceAs (Decidable (a.key < b.key))

instance (a b : Instant) : Decidable (a ≤ b) := inferInstanceAs (Decidable (a.key ≤ b.key))

/-- The first instant of the first day of a year that the calendar has. -/
def startOfYear (year : Int) (h : firstYear ≤ year ∧ year ≤ lastYear) : Instant :=
  ⟨⟨year, 1, 1, h.1, h.2, by decide, by decide, by decide, by simp [daysIn]⟩, 0, 0, 0, 0, by decide⟩

/-- The instant that clocks count from: the start of 1970. -/
def epoch : Instant := startOfYear 1970 (by decide)

/-- The order of instants is that of their keys. -/
theorem lt_iff {a b : Instant} : a < b ↔ a.key < b.key := Iff.rfl

/-- The weak order of instants is that of their keys. -/
theorem le_iff {a b : Instant} : a ≤ b ↔ a.key ≤ b.key := Iff.rfl

/-- No instant precedes itself. -/
theorem le_refl (a : Instant) : a ≤ a := Int.le_refl _

/-- The order is transitive. -/
theorem le_trans {a b c : Instant} (h₁ : a ≤ b) (h₂ : b ≤ c) : a ≤ c := Int.le_trans h₁ h₂

/-- Of two instants one does not follow the other. -/
theorem le_of_not_lt {a b : Instant} (h : ¬ a < b) : b ≤ a := Int.not_lt.mp h

/-- Instants with the same key are equal. -/
theorem key_injective {a b : Instant} (h : a.key = b.key) : a = b := by
  obtain ⟨⟨y₁, mo₁, d₁, v₁⟩, h₁, mi₁, s₁, n₁, t₁⟩ := a
  obtain ⟨⟨y₂, mo₂, d₂, v₂⟩, h₂, mi₂, s₂, n₂, t₂⟩ := b
  have b₁ := Date.daysIn_bounds y₁ mo₁
  have b₂ := Date.daysIn_bounds y₂ mo₂
  simp only [key] at h
  obtain ⟨-, -, -, ma, -, da⟩ := v₁
  obtain ⟨-, -, -, mb, -, db⟩ := v₂
  obtain ⟨ha, ia, sa, na⟩ := t₁
  obtain ⟨hb, ib, sb, nb⟩ := t₂
  have : n₁ = n₂ := by omega
  have : s₁ = s₂ := by omega
  have : mi₁ = mi₂ := by omega
  have : h₁ = h₂ := by omega
  have : d₁ = d₂ := by omega
  have : mo₁ = mo₂ := by omega
  have : y₁ = y₂ := by omega
  subst_vars
  rfl

/-- Instants of which neither precedes the other are equal. -/
theorem le_antisymm {a b : Instant} (h₁ : a ≤ b) (h₂ : b ≤ a) : a = b :=
  key_injective (Int.le_antisymm h₁ h₂)

end Instant

end VersionedStore
