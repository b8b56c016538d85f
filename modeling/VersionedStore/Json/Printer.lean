import VersionedStore.Json.Basic
import VersionedStore.Text.Hexadecimal

/-!
# The text of a JSON value

Values are written without blanks and members in their order. Strings escape the quote, the
backslash and the controls, and nothing else; integers are written in full, doubles in their
shortest text.
-/

namespace VersionedStore.Json

/-- One character as it stands in a string. -/
def escapeChar (c : Char) : List Char :=
  if c = '"' then ['\\', '"']
  else if c = '\\' then ['\\', '\\']
  else if c = '\x08' then ['\\', 'b']
  else if c = '\x0c' then ['\\', 'f']
  else if c = '\n' then ['\\', 'n']
  else if c = '\r' then ['\\', 'r']
  else if c = '\t' then ['\\', 't']
  else if c.toNat < 0x20 then
    ['\\', 'u', '0', '0', (Text.HexDigit.ofNat (c.toNat / 16)).toChar,
      (Text.HexDigit.ofNat c.toNat).toChar]
  else [c]

/-- A string between its quotes. -/
def stringChars (s : String) : List Char := '"' :: s.toList.flatMap escapeChar ++ ['"']

mutual

/-- The characters of a value. -/
def chars : Json → List Char
  | .null => ['n', 'u', 'l', 'l']
  | .bool true => ['t', 'r', 'u', 'e']
  | .bool false => ['f', 'a', 'l', 's', 'e']
  | .int n => Text.Decimal.intChars n
  | .float x => x.chars
  | .str s => stringChars s
  | .arr [] => ['[', ']']
  | .arr (v :: rest) => '[' :: chars v ++ itemChars rest
  | .obj [] => ['\x7b', '\x7d']
  | .obj ((k, v) :: rest) => '\x7b' :: stringChars k ++ ':' :: chars v ++ memberChars rest

/-- The items after the first, each behind a comma, and the closing bracket. -/
def itemChars : List Json → List Char
  | [] => [']']
  | v :: rest => ',' :: chars v ++ itemChars rest

/-- The members after the first, each behind a comma, and the closing brace. -/
def memberChars : List (String × Json) → List Char
  | [] => ['\x7d']
  | (k, v) :: rest => ',' :: stringChars k ++ ':' :: chars v ++ memberChars rest

end

/-- The text of a value. -/
def text (v : Json) : String := String.ofList v.chars

/-- A character from the space on, other than the quote and the backslash, stands for itself. -/
theorem escapeChar_plain {c : Char} (h : 0x20 ≤ c.toNat) (h₁ : c ≠ '"') (h₂ : c ≠ '\\') :
    escapeChar c = [c] := by
  have : c ≠ '\x08' := by rintro rfl; exact absurd h (by decide)
  have : c ≠ '\x0c' := by rintro rfl; exact absurd h (by decide)
  have : c ≠ '\n' := by rintro rfl; exact absurd h (by decide)
  have : c ≠ '\r' := by rintro rfl; exact absurd h (by decide)
  have : c ≠ '\t' := by rintro rfl; exact absurd h (by decide)
  have : ¬ c.toNat < 0x20 := by omega
  simp [escapeChar, *]

end VersionedStore.Json
