import VersionedStore.Text.CodePoint

/-!
# Blanks

The characters with the Unicode property `White_Space`, and the removal of blanks from the ends of a
text. Trimming takes blanks only: what is left begins and ends with another character.
-/

namespace VersionedStore.Text

/-- The code points with the property `White_Space`. -/
def blankStretches : List Stretch :=
  [⟨0x9, 0xD, 1⟩, ⟨0x20, 0x20, 1⟩, ⟨0x85, 0x85, 1⟩, ⟨0xA0, 0xA0, 1⟩, ⟨0x1680, 0x1680, 1⟩,
   ⟨0x2000, 0x200A, 1⟩, ⟨0x2028, 0x2029, 1⟩, ⟨0x202F, 0x202F, 1⟩, ⟨0x205F, 0x205F, 1⟩,
   ⟨0x3000, 0x3000, 1⟩]

/-- Is the character white space? -/
def isBlank (c : Char) : Bool := inStretches blankStretches c

/-- The characters without the blanks before the first other one. -/
def trimLeft (cs : List Char) : List Char := cs.dropWhile isBlank

/-- The characters without the blanks at either end. -/
def trimBoth (cs : List Char) : List Char := (trimLeft (trimLeft cs).reverse).reverse

/-- The text without the blanks at either end. -/
def trim (s : String) : String := String.ofList (trimBoth s.toList)

/-- Does the text hold nothing but blanks? -/
def isBlankText (s : String) : Bool := s.toList.all isBlank

/-- The text with its ASCII capitals made small. -/
def asciiSmall (s : String) : String := String.ofList (s.toList.map Char.toLower)

/-- Trimming on the left removes nothing from what begins with another character. -/
theorem trimLeft_cons_of_not_blank {c : Char} (h : isBlank c = false) (cs : List Char) :
    trimLeft (c :: cs) = c :: cs := by
  simp [trimLeft, h]

private theorem dropWhile_dropWhile (p : Char → Bool) (cs : List Char) :
    (cs.dropWhile p).dropWhile p = cs.dropWhile p := by
  induction cs with
  | nil => rfl
  | cons c cs ih =>
    by_cases h : p c = true
    · simp [h, ih]
    · simp [h]

/-- Trimming on the left twice is trimming once. -/
theorem trimLeft_trimLeft (cs : List Char) : trimLeft (trimLeft cs) = trimLeft cs :=
  dropWhile_dropWhile isBlank cs

private theorem trimLeft_of_all_blank {cs : List Char} (h : cs.all isBlank = true) :
    trimLeft cs = [] := by
  induction cs with
  | nil => rfl
  | cons c cs ih =>
    rw [List.all_cons, Bool.and_eq_true] at h
    have := ih h.2
    simp_all [trimLeft]

/-- Text of blanks alone is trimmed to nothing. -/
theorem trimBoth_of_all_blank {cs : List Char} (h : cs.all isBlank = true) : trimBoth cs = [] := by
  have empty : trimLeft cs = [] := trimLeft_of_all_blank h
  rw [trimBoth, empty]
  rfl

end VersionedStore.Text
