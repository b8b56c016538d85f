import VersionedStore.Instant.Basic
import VersionedStore.Outcome
import VersionedStore.Text.Blank

/-!
# Instants as RFC 3339 text

An instant is written in UTC with `Z` and with 0, 3, 6 or 9 places for the fraction, the fewest that
are exact; a year outside 0 to 9999 carries a sign. Reading is lenient: blanks may stand before each
part, the separator may be `T`, `t` or a space, any offset is taken into account, and places past
the nanosecond are dropped.
-/

namespace VersionedStore.Instant

open Text

/-- Why a text is not an instant. -/
inductive Fault where
  | tooShort
  | invalid
  | outOfRange
  | tooLong
  | impossible
  deriving DecidableEq, Repr

/-- The sentence for a fault. -/
def Fault.message : Fault → String
  | .tooShort => "premature end of input"
  | .invalid => "input contains invalid characters"
  | .outOfRange => "input is out of range"
  | .tooLong => "trailing input"
  | .impossible => "no possible date and time matching input"

/-- The characters of a year: four digits, or a sign and at least four digits. -/
def yearChars (year : Int) : List Char :=
  if 0 ≤ year ∧ year ≤ 9999 then Decimal.padded 4 year.natAbs
  else (if year < 0 then '-' else '+') :: Decimal.padded 4 year.natAbs

/-- The fraction of a second with its point, in groups of three places. -/
def fractionChars (nanosecond : Nat) : List Char :=
  if nanosecond = 0 then []
  else if nanosecond % 1000000 = 0 then '.' :: Decimal.padded 3 (nanosecond / 1000000)
  else if nanosecond % 1000 = 0 then '.' :: Decimal.padded 6 (nanosecond / 1000)
  else '.' :: Decimal.padded 9 nanosecond

/-- The characters of an instant. -/
def chars (t : Instant) : List Char :=
  yearChars t.year ++ '-' :: Decimal.padded 2 t.month ++ '-' :: Decimal.padded 2 t.day ++
    'T' :: Decimal.padded 2 t.hour ++ ':' :: Decimal.padded 2 t.minute ++
    ':' :: Decimal.padded 2 t.second ++ fractionChars t.nanosecond ++ ['Z']

/-- The text of an instant. -/
def text (t : Instant) : String := String.ofList t.chars

/-- A step of reading: a value and the characters after it. -/
abbrev Reader (α : Type) := List Char → Except Fault (α × List Char)

/-- At least one digit and at most `max`, as a number. -/
def readDigits (max : Nat) : Reader Nat := fun cs ↦
  match cs with
  | [] => .error .tooShort
  | _ =>
    let ds := (cs.take max).takeWhile fun c ↦ (Decimal.digit? c).isSome
    if ds.isEmpty then .error .invalid else .ok (Decimal.value ds, cs.drop ds.length)

/-- A part of the date or time: blanks and one or two digits between two bounds. -/
def readPart (low high : Nat) : Reader Nat := fun cs ↦ do
  let (n, rest) ← readDigits 2 (trimLeft cs)
  if low ≤ n ∧ n ≤ high then .ok (n, rest) else .error .outOfRange

/-- A year: at most four digits, or a sign and any number of them. -/
def readYear : Reader Int := fun cs ↦
  match trimLeft cs with
  | '-' :: rest => do
    let (n, rest) ← readDigits rest.length rest
    if n ≤ 0x80000000 then .ok (-(n : Int), rest) else .error .outOfRange
  | '+' :: rest => do
    let (n, rest) ← readDigits rest.length rest
    if n < 0x80000000 then .ok ((n : Int), rest) else .error .outOfRange
  | rest => do
    let (n, rest) ← readDigits 4 rest
    .ok ((n : Int), rest)

/-- One character that must stand here, after blanks. -/
def readMark (c : Char) (cs : List Char) : Except Fault (List Char) :=
  match trimLeft cs with
  | [] => .error .tooShort
  | d :: rest => if d = c then .ok rest else .error .invalid

/-- The separator between date and time. -/
def readSeparator : List Char → Except Fault (List Char)
  | [] => .error .tooShort
  | c :: rest => if c = 'T' ∨ c = 't' ∨ c = ' ' then .ok rest else .error .invalid

/-- The fraction of a second, if there is one, cut to nanoseconds. -/
def readFraction : Reader Nat
  | '.' :: cs => do
    let (n, rest) ← readDigits 9 cs
    let places := cs.length - rest.length
    .ok (n * Decimal.weight (9 - places), rest.dropWhile fun c ↦ (Decimal.digit? c).isSome)
  | cs => .ok (0, cs)

/-- The number of bytes that characters take in UTF-8. -/
def byteLength (cs : List Char) : Nat := cs.foldl (fun n c ↦ n + c.utf8Size) 0

/-- Two digits that must follow each other; `limit` bounds the first. -/
def readPair (limit : Nat) (cs : List Char) : Except Fault (Nat × List Char) :=
  if byteLength cs < 2 then .error .tooShort
  else match cs with
    | a :: b :: rest =>
      match Decimal.digit? a, Decimal.digit? b with
      | some m, some n => if m < limit then .ok (10 * m + n, rest) else .error .outOfRange
      | _, _ => .error .invalid
    | _ => .error .invalid

/-- Hours and minutes of an offset, as minutes. -/
def readOffsetMinutes : Reader Nat := fun cs ↦ do
  let (hours, rest) ← readPair 10 cs
  let (minutes, rest) ← readPair 6 (rest.dropWhile fun c ↦ c == ':' || isBlank c)
  .ok (60 * hours + minutes, rest)

/-- The offset from UTC in minutes. -/
def readOffset : Reader Int
  | [] => .error .tooShort
  | c :: rest =>
    if c = 'Z' ∨ c = 'z' then .ok (0, rest)
    else if c = '+' then (readOffsetMinutes rest).map fun p ↦ ((p.1 : Int), p.2)
    else if c = '-' ∨ c = '−' then (readOffsetMinutes rest).map fun p ↦ (-(p.1 : Int), p.2)
    else match c, rest with
      | c, d :: e :: rest =>
        if [c.toLower, d.toLower, e.toLower] = ['u', 't', 'c'] then .ok (0, rest) else .error .invalid
      | _, _ => .error .invalid

/-- The instant of a local date and time at an offset from UTC. -/
def ofLocal (date : Date) (hour minute second nanosecond : Nat) (offset : Int) :
    Except Fault Instant :=
  let minutes : Int := 60 * hour + minute - offset
  let shifted :=
    if minutes < 0 then (date.previous?, minutes + 1440)
    else if 1440 ≤ minutes then (date.next?, minutes - 1440)
    else (some date, minutes)
  match shifted with
  | (none, _) => .error .impossible
  | (some day, m) =>
    if h : m.natAbs / 60 < 24 ∧ m.natAbs % 60 < 60 ∧ second ≤ 60 ∧ nanosecond < 1000000000 then
      .ok ⟨day, m.natAbs / 60, m.natAbs % 60, second, nanosecond, h⟩
    else .error .impossible

/-- Read an instant from all the characters of a text. -/
def readChars (cs : List Char) : Except Fault Instant := do
  let (year, cs) ← readYear cs
  let (month, cs) ← readMark '-' cs >>= readPart 1 12
  let (day, cs) ← readMark '-' cs >>= readPart 1 31
  let (hour, cs) ← readSeparator cs >>= readPart 0 23
  let (minute, cs) ← readMark ':' cs >>= readPart 0 59
  let (second, cs) ← readMark ':' cs >>= readPart 0 60
  let (nanosecond, cs) ← readFraction cs
  let (offset, cs) ← readOffset (trimLeft cs)
  if !(trimLeft cs).isEmpty then .error .tooLong
  match Date.make? year month day with
  | none => .error .outOfRange
  | some date =>
    if 1440 ≤ offset.natAbs then .error .outOfRange
    ofLocal date hour minute second nanosecond offset

/-- Read an instant from a text. -/
def read (s : String) : Except Fault Instant := readChars s.toList

/-- A local time at no offset is the instant itself. -/
theorem ofLocal_zero (t : Instant) :
    ofLocal t.toDate t.hour t.minute t.second t.nanosecond 0 = .ok t := by
  obtain ⟨h₁, h₂, h₃, h₄⟩ := t.validTime
  have low : ¬ (60 * (t.hour : Int) + t.minute < 0) := by omega
  have high : ¬ (1440 ≤ 60 * (t.hour : Int) + t.minute) := by omega
  have abs : (60 * (t.hour : Int) + t.minute).natAbs = 60 * t.hour + t.minute := by omega
  have hour : (60 * t.hour + t.minute) / 60 = t.hour := by omega
  have minute : (60 * t.hour + t.minute) % 60 = t.minute := by omega
  unfold ofLocal
  simp only [Int.sub_zero, if_neg low, if_neg high, abs, hour, minute]
  rw [dif_pos ⟨h₁, h₂, h₃, h₄⟩]

end VersionedStore.Instant
