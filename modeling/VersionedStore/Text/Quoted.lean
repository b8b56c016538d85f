import VersionedStore.Text.Hexadecimal
import VersionedStore.Text.Printable

/-!
# Quoted text

Text between double quotes as messages and log lines show it: a quote or a backslash stands behind a
backslash, the common controls have names, and every other hidden character is shown by its number.
-/

namespace VersionedStore.Text

/-- One character as it stands between quotes. -/
def quoteChar (c : Char) : List Char :=
  if c = '\x00' then ['\\', '0']
  else if c = '\t' then ['\\', 't']
  else if c = '\r' then ['\\', 'r']
  else if c = '\n' then ['\\', 'n']
  else if c = '\\' then ['\\', '\\']
  else if c = '"' then ['\\', '"']
  else if isHidden c then ['\\', 'u', '\x7b'] ++ (hexText c.toNat).toList ++ ['\x7d']
  else [c]

/-- The text between quotes. -/
def quoted (s : String) : String := String.ofList ('"' :: s.toList.flatMap quoteChar ++ ['"'])

/-- Visible ASCII other than the quote and the backslash stands for itself. -/
theorem quoteChar_plain {c : Char} (low : 0x20 ≤ c.toNat) (high : c.toNat < 0x7F) (h₁ : c ≠ '\\')
    (h₂ : c ≠ '"') : quoteChar c = [c] := by
  have : c ≠ '\x00' := by rintro rfl; exact absurd low (by decide)
  have : c ≠ '\t' := by rintro rfl; exact absurd low (by decide)
  have : c ≠ '\r' := by rintro rfl; exact absurd low (by decide)
  have : c ≠ '\n' := by rintro rfl; exact absurd low (by decide)
  simp [quoteChar, isHidden_of_ascii low high, *]

end VersionedStore.Text
