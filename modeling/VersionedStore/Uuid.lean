import VersionedStore.Text.Hexadecimal

/-!
# UUIDs

A UUID is 32 hexadecimal digits. It is written in lower case with hyphens after the digits 8, 12, 16
and 20, and read from four spellings in any case: with the hyphens, without them, with the hyphens
in braces, and with the hyphens behind `urn:uuid:`. Every spelling of a UUID reads as the same
value.
-/

namespace VersionedStore

open Text

/-- A UUID, as its digits. -/
structure Uuid where
  digits : List HexDigit
  length_digits : digits.length = 32
  deriving DecidableEq

namespace Uuid

/-- The UUID of a row of digits, if there are 32. -/
def ofDigits? (ds : List HexDigit) : Option Uuid :=
  if h : ds.length = 32 then some ⟨ds, h⟩ else none

/-- The digits without hyphens. -/
def simpleChars (u : Uuid) : List Char := u.digits.map HexDigit.toChar

/-- The digits in groups of 8, 4, 4, 4 and 12, with hyphens between. -/
def hyphenated (cs : List Char) : List Char :=
  cs.take 8 ++ '-' :: (cs.drop 8).take 4 ++ '-' :: (cs.drop 12).take 4 ++
    '-' :: (cs.drop 16).take 4 ++ '-' :: cs.drop 20

/-- The characters of a UUID. -/
def chars (u : Uuid) : List Char := hyphenated u.simpleChars

/-- The text of a UUID. -/
def text (u : Uuid) : String := String.ofList u.chars

/-- The digits of a UUID as a text. -/
def simpleText (u : Uuid) : String := String.ofList u.simpleChars

/-- The UUID of random digits, of which one tells that they are random and one how they are laid
out. -/
def ofRandom? (ds : List HexDigit) : Option Uuid :=
  ofDigits? ((ds.set 12 4).modify 16 fun d ↦ 8 + d % 4)

/-- Read 32 digits. -/
def readSimple? (cs : List Char) : Option Uuid := (cs.mapM HexDigit.ofChar?).bind ofDigits?

/-- The characters without the hyphens of a 36-character UUID, if those stand in their places. -/
def dropHyphens? (cs : List Char) : Option (List Char) :=
  let simple := cs.take 8 ++ (cs.drop 9).take 4 ++ (cs.drop 14).take 4 ++ (cs.drop 19).take 4 ++
    cs.drop 24
  if cs.length = 36 ∧ hyphenated simple = cs then some simple else none

/-- Read the spelling with hyphens. -/
def readHyphenated? (cs : List Char) : Option Uuid := (dropHyphens? cs).bind readSimple?

/-- The characters inside braces. -/
def insideBraces? (cs : List Char) : Option (List Char) :=
  match cs with
  | '\x7b' :: rest => if rest.getLast? = some '\x7d' then some rest.dropLast else none
  | _ => none

/-- The characters behind `urn:uuid:` in any case. -/
def behindUrn? (cs : List Char) : Option (List Char) :=
  if (cs.take 9).map Char.toLower = ['u', 'r', 'n', ':', 'u', 'u', 'i', 'd', ':'] then
    some (cs.drop 9)
  else none

/-- Read any spelling from its characters; their number tells which one it can be. -/
def readChars? (cs : List Char) : Option Uuid :=
  if cs.length = 32 then readSimple? cs
  else if cs.length = 36 then readHyphenated? cs
  else if cs.length = 38 then (insideBraces? cs).bind readHyphenated?
  else if cs.length = 45 then (behindUrn? cs).bind readHyphenated?
  else none

/-- Read any spelling. -/
def read? (s : String) : Option Uuid := readChars? s.toList

private theorem mapM_ofChar?_toChar (ds : List HexDigit) :
    (ds.map HexDigit.toChar).mapM HexDigit.ofChar? = some ds := by
  induction ds with
  | nil => rfl
  | cons d ds ih => simp [HexDigit.ofChar?_toChar, ih]

/-- A UUID has 32 characters without hyphens. -/
theorem length_simpleChars (u : Uuid) : u.simpleChars.length = 32 := by
  simp [simpleChars, u.length_digits]

/-- A UUID has 36 characters with hyphens. -/
theorem length_chars (u : Uuid) : u.chars.length = 36 := by
  simp [chars, hyphenated, u.length_simpleChars]

/-- Reading the digits of a UUID gives it back. -/
theorem readSimple?_simpleChars (u : Uuid) : readSimple? u.simpleChars = some u := by
  simp only [readSimple?, simpleChars, mapM_ofChar?_toChar, Option.bind_some]
  simp [ofDigits?, u.length_digits]

/-- The hyphens stand behind the groups of digits. -/
theorem hyphenated_groups {a b c d : List Char} (ha : a.length = 8) (hb : b.length = 4)
    (hc : c.length = 4) (hd : d.length = 4) (e : List Char) :
    hyphenated (a ++ b ++ c ++ d ++ e) = a ++ '-' :: b ++ '-' :: c ++ '-' :: d ++ '-' :: e := by
  simp [hyphenated, List.drop_append, ha, hb, hc, hd, List.drop_of_length_le]

/-- Any 32 characters fall into the groups of a UUID. -/
theorem exists_groups {cs : List Char} (h : cs.length = 32) :
    ∃ a b c d e : List Char, cs = a ++ b ++ c ++ d ++ e ∧ a.length = 8 ∧ b.length = 4 ∧
      c.length = 4 ∧ d.length = 4 ∧ e.length = 12 := by
  refine ⟨cs.take 8, (cs.drop 8).take 4, (cs.drop 12).take 4, (cs.drop 16).take 4, cs.drop 20, ?_,
    by simp [h], by simp [h], by simp [h], by simp [h], by simp [h]⟩
  have split (n : Nat) : cs.drop n = (cs.drop n).take 4 ++ cs.drop (n + 4) := by
    have := (List.take_append_drop 4 (cs.drop n)).symm
    rwa [List.drop_drop] at this
  conv => lhs; rw [← List.take_append_drop 8 cs, split 8, split 12, split 16]
  simp only [List.append_assoc]

/-- The hyphens that were put between 32 characters are dropped again. -/
theorem dropHyphens?_hyphenated {cs : List Char} (h : cs.length = 32) :
    dropHyphens? (hyphenated cs) = some cs := by
  obtain ⟨a, b, c, d, e, rfl, ha, hb, hc, hd, he⟩ := exists_groups h
  have shape := hyphenated_groups ha hb hc hd e
  have back : (a ++ '-' :: b ++ '-' :: c ++ '-' :: d ++ '-' :: e).take 8 ++
      ((a ++ '-' :: b ++ '-' :: c ++ '-' :: d ++ '-' :: e).drop 9).take 4 ++
      ((a ++ '-' :: b ++ '-' :: c ++ '-' :: d ++ '-' :: e).drop 14).take 4 ++
      ((a ++ '-' :: b ++ '-' :: c ++ '-' :: d ++ '-' :: e).drop 19).take 4 ++
      (a ++ '-' :: b ++ '-' :: c ++ '-' :: d ++ '-' :: e).drop 24 = a ++ b ++ c ++ d ++ e := by
    simp [List.drop_append, ha, hb, hc, hd, List.drop_of_length_le]
  have length : (a ++ '-' :: b ++ '-' :: c ++ '-' :: d ++ '-' :: e).length = 36 := by
    simp [ha, hb, hc, hd, he]
  unfold dropHyphens?
  rw [shape, back]
  exact if_pos ⟨length, shape⟩

/-- Reading the text of a UUID gives it back. -/
theorem read?_text (u : Uuid) : read? u.text = some u := by
  have : dropHyphens? u.chars = some u.simpleChars := dropHyphens?_hyphenated u.length_simpleChars
  simp [read?, text, readChars?, u.length_chars, readHyphenated?, this, readSimple?_simpleChars]

/-- Reading the digits of a UUID as a text gives it back. -/
theorem read?_simpleText (u : Uuid) : read? u.simpleText = some u := by
  simp [read?, simpleText, readChars?, u.length_simpleChars, readSimple?_simpleChars]

/-- Two UUIDs with one text are equal. -/
theorem text_injective {u v : Uuid} (h : u.text = v.text) : u = v := by
  have := read?_text u
  rw [h, read?_text] at this
  exact (Option.some.inj this).symm

end Uuid

end VersionedStore
