import VersionedStore.Declaration.Token
import VersionedStore.Text.Hexadecimal
import VersionedStore.Text.Identifier

/-!
# Literals

The spellings of strings, characters and numbers. `readQuoted?` reads what stands between quotes and
what its escapes stand for; `stringValue?` is the text that a string literal stands for.
-/

namespace VersionedStore.Declaration

open Text

/-- Which escapes and characters may stand between quotes. -/
structure Quoting where
  /-- The closing quote. -/
  quote : Char
  /-- May a character be given by its code point? -/
  codePoints : Bool
  /-- May a number of two digits pass 127? -/
  highBytes : Bool
  /-- Must the characters be ASCII? -/
  ascii : Bool
  /-- May the character zero stand there? -/
  zero : Bool

namespace Quoting

/-- Between the quotes of a string. -/
def string : Quoting := ⟨'"', true, false, false, true⟩

/-- Between the quotes of a byte string. -/
def bytes : Quoting := ⟨'"', false, true, true, true⟩

/-- Between the quotes of a string that ends with a zero. -/
def cString : Quoting := ⟨'"', true, true, false, false⟩

/-- May the character stand there as it is? -/
def admits (q : Quoting) (c : Char) : Bool := (!q.ascii || c.toNat < 0x80) && (q.zero || c != '\x00')

end Quoting

/-- The digits of a code point between braces: up to six, with underscores after the first. -/
def codePointDigits? : Nat → List HexDigit → List Char → Option (List HexDigit × List Char)
  | 0, _, _ => none
  | n + 1, ds, cs =>
    match cs with
    | '\x7d' :: rest => if ds.isEmpty then none else some (ds, rest)
    | '_' :: rest => if ds.isEmpty then none else codePointDigits? n ds rest
    | c :: rest =>
      match HexDigit.ofChar? c with
      | some d => if ds.length < 6 then codePointDigits? n (ds ++ [d]) rest else none
      | none => none
    | [] => none

/-- What an escape stands for, behind its backslash. -/
def escapeValue? (q : Quoting) : List Char → Option (Char × List Char)
  | 'n' :: cs => some ('\n', cs)
  | 'r' :: cs => some ('\r', cs)
  | 't' :: cs => some ('\t', cs)
  | '\\' :: cs => some ('\\', cs)
  | '\'' :: cs => some ('\'', cs)
  | '"' :: cs => some ('"', cs)
  | '0' :: cs => some ('\x00', cs)
  | 'x' :: a :: b :: cs => do
    let high ← HexDigit.ofChar? a
    let low ← HexDigit.ofChar? b
    if high.val < 8 ∨ q.highBytes then some (Char.ofNat (hexValue [high, low]), cs) else none
  | 'u' :: '\x7b' :: cs =>
    if q.codePoints then do
      let (ds, rest) ← codePointDigits? (cs.length + 1) [] cs
      if (hexValue ds).isValidChar then some (Char.ofNat (hexValue ds), rest) else none
    else none
  | _ => none

/-- The characters after a line break inside a string, where blanks and further line breaks are left
out up to another character. A carriage return stands only before a line feed. -/
def skipIndentation? : List Char → Option (List Char)
  | [] => none
  | '\r' :: '\n' :: cs | ' ' :: cs | '\t' :: cs | '\n' :: cs => skipIndentation? cs
  | '\r' :: _ => none
  | cs => some cs

/-- What stands up to the closing quote, and the characters behind it. Each step takes a character.
-/
def readQuoted? (q : Quoting) : Nat → List Char → Option (List Char × List Char)
  | 0, _ | _, [] => none
  | n + 1, c :: cs =>
    if c = q.quote then some ([], cs)
    else if c = '\\' then
      match cs with
      | '\n' :: rest | '\r' :: '\n' :: rest => skipIndentation? rest >>= readQuoted? q n
      | _ => do
        let (d, rest) ← escapeValue? q cs
        if d = '\x00' ∧ ¬ q.zero then none
        else
          let (ds, rest) ← readQuoted? q n rest
          some (d :: ds, rest)
    else if c = '\r' then
      match cs with
      | '\n' :: rest => do
        let (ds, rest) ← readQuoted? q n rest
        some ('\n' :: ds, rest)
      | _ => none
    else if ¬ q.admits c then none
    else do
      let (ds, rest) ← readQuoted? q n cs
      some (c :: ds, rest)

/-- What stands up to a quote with so many hashes behind it, and the characters behind those. -/
def readRaw? (q : Quoting) (hashes : Nat) : List Char → Option (List Char × List Char)
  | [] => none
  | c :: cs =>
    if c = '"' ∧ cs.take hashes = List.replicate hashes '#' then some ([], cs.drop hashes)
    else if c = '\r' ∧ cs.head? ≠ some '\n' then none
    else if ¬ q.admits c then none
    else (readRaw? q hashes cs).map fun p ↦ (c :: p.1, p.2)

/-- A raw string behind its letter: at most 255 hashes, a quote, and all up to the quote with as
many hashes. -/
def readRawString? (q : Quoting) (cs : List Char) : Option (List Char × List Char) :=
  let hashes := (cs.takeWhile (· = '#')).length
  match cs.drop hashes with
  | '"' :: rest => if hashes ≤ 255 then readRaw? q hashes rest else none
  | _ => none

/-- A character behind its opening quote. -/
def readCharacter? (q : Quoting) : List Char → Option (List Char)
  | '\\' :: cs =>
    match escapeValue? q cs with
    | some (_, '\'' :: rest) => some rest
    | _ => none
  | c :: '\'' :: rest => if q.admits c then some rest else none
  | _ => none

/-- Pass over the suffix of a literal. -/
def skipSuffix : List Char → List Char
  | c :: cs => if isIdentifierStart c then cs.dropWhile isIdentifierRest else c :: cs
  | [] => []

/-- Is the character a digit in some base, or an underscore? -/
def isDigitOrGap (base : Nat) (c : Char) : Bool :=
  c == '_' || (HexDigit.ofChar? c).any fun d ↦ d.val < base

/-- Pass over digits in a base, of which there must be one; a decimal digit outside the base is
refused. -/
def passDigits? (base : Nat) (cs : List Char) : Option (List Char) :=
  let ds := cs.takeWhile (isDigitOrGap base)
  let rest := cs.dropWhile (isDigitOrGap base)
  if ds.all (· == '_') ∨ (rest.head?.any Char.isDigit) then none else some rest

/-- Pass over an integer without its suffix. -/
def passInteger? (cs : List Char) : Option (List Char) :=
  match cs with
  | '0' :: 'x' :: rest => passDigits? 16 rest
  | '0' :: 'o' :: rest => passDigits? 8 rest
  | '0' :: 'b' :: rest => passDigits? 2 rest
  | c :: _ => if c.isDigit then passDigits? 10 cs else none
  | [] => none

/-- Pass over an exponent behind its letter: digits, of which there must be one, with gaps and a
sign before them. -/
def passExponent? (signed valued : Bool) : List Char → Option (List Char)
  | [] => if valued then some [] else none
  | c :: cs =>
    if c.isDigit then passExponent? signed true cs
    else if c = '_' then passExponent? signed valued cs
    else if valued then some (c :: cs)
    else if (c = '+' ∨ c = '-') ∧ ¬ signed then passExponent? true false cs
    else none

/-- Pass over a float without its suffix: digits with a point, an exponent, or both. No identifier
and no second point may follow the point. -/
def passFloat? (cs : List Char) : Option (List Char) :=
  if cs.head?.any Char.isDigit then
    match cs.dropWhile (isDigitOrGap 10) with
    | '.' :: rest =>
      if rest.head?.any fun c ↦ c == '.' || isIdentifierStart c then none
      else
        let rest := rest.dropWhile (isDigitOrGap 10)
        match rest with
        | 'e' :: exponent | 'E' :: exponent => some ((passExponent? false false exponent).getD rest)
        | _ => some rest
    | 'e' :: exponent | 'E' :: exponent => passExponent? false false exponent
    | _ => none
  else none

/-- Pass over a number with its suffix, and tell what it is. No identifier goes on behind it. -/
def passNumber? (cs : List Char) : Option (LiteralKind × List Char) :=
  let ended (kind : LiteralKind) (rest : List Char) : Option (LiteralKind × List Char) :=
    let rest := skipSuffix rest
    if rest.head?.any isIdentifierRest then none else some (kind, rest)
  ((passFloat? cs).bind (ended .float)).or ((passInteger? cs).bind (ended .integer))

/-- The digits of an integer without those that say its base, and the base. -/
def baseOf : List Char → Nat × List Char
  | '0' :: 'x' :: ds => (16, ds)
  | '0' :: 'o' :: ds => (8, ds)
  | '0' :: 'b' :: ds => (2, ds)
  | ds => (10, ds)

/-- Is the text that of an integer below 2³² without a suffix? -/
def isIndexText (cs : List Char) : Bool :=
  let (base, ds) := baseOf cs
  let step (n : Nat) (c : Char) : Nat :=
    if c = '_' then n else n * base + ((HexDigit.ofChar? c).map Fin.val).getD 0
  passInteger? cs == some [] && ds.foldl step 0 < 4294967296

/-- The parts of a text between points. -/
def pointedParts : List Char → List (List Char)
  | [] => [[]]
  | c :: cs =>
    match pointedParts cs with
    | [] => [[]]
    | p :: ps => if c = '.' then [] :: p :: ps else (c :: p) :: ps

/-- The text that the spelling of a string literal stands for. -/
def stringValue? (spelling : String) : Option String :=
  match spelling.toList with
  | '"' :: cs => (readQuoted? .string (cs.length + 1) cs).map fun p ↦ String.ofList p.1
  | 'r' :: cs => (readRawString? .string cs).map fun p ↦ String.ofList p.1
  | _ => none

end VersionedStore.Declaration
