import VersionedStore.Json.Basic
import VersionedStore.Json.Fault

/-!
# The parts of JSON text

Readers for blanks, words, strings and numbers, and a reader that passes over a whole value. A
reader takes a value off the front of the text and gives the characters after it, or the first
fault. A value that is passed over is checked less: its numbers may be out of range, its strings may
hold lone surrogates, and it may be nested to any depth.
-/

namespace VersionedStore.Json

open Text

/-- A reader takes a value off the front of a text, or stops at the first fault. -/
abbrev Reader (α : Type) := List Char → Except Fault (α × List Char)

/-- Stop where the text is no JSON. -/
def stop {α : Type} (place : Malformed) : Except Fault α := .error (.malformed place)

/-- The blanks between the parts of a JSON text. -/
def isGap (c : Char) : Bool := c == ' ' || c == '\t' || c == '\n' || c == '\r'

/-- The text without the blanks at its front. -/
def skipGap (cs : List Char) : List Char := cs.dropWhile isGap

/-- The letters of a word after its first one. -/
def readWord : List Char → List Char → Except Fault (List Char)
  | [], cs => .ok cs
  | _ :: _, [] => stop .endOfValue
  | w :: ws, c :: cs => if c = w then readWord ws cs else stop .word

/-- Four hexadecimal digits, as a number. -/
def readHex (cs : List Char) : Except Fault (Nat × List Char) :=
  match (cs.take 4).mapM HexDigit.ofChar? with
  | some [a, b, c, d] => .ok (hexValue [a, b, c, d], cs.drop 4)
  | _ => if Instant.byteLength cs < 4 then stop .endOfString else stop .escape

/-- Is the number the first half of a pair that stands for one character? -/
def isLeading (n : Nat) : Bool := 0xD800 ≤ n && n ≤ 0xDBFF

/-- Is the number the second half of such a pair? -/
def isTrailing (n : Nat) : Bool := 0xDC00 ≤ n && n ≤ 0xDFFF

/-- The character that a pair of halves stands for. -/
def joinHalves (high low : Nat) : Char :=
  Char.ofNat (0x10000 + (high - 0xD800) * 0x400 + (low - 0xDC00))

/-- The second half of a pair, which must follow the first one. -/
def readSecondHalf (high : Nat) : Reader Char
  | [] => stop .endOfString
  | '\\' :: [] => stop .endOfString
  | '\\' :: 'u' :: cs => do
    let (low, rest) ← readHex cs
    if isTrailing low then .ok (joinHalves high low, rest) else stop .loneSurrogate
  | _ => stop .endOfHexEscape

/-- What stands behind a backslash. -/
def readEscape : Reader Char
  | [] => stop .endOfString
  | 'u' :: cs => do
    let (n, rest) ← readHex cs
    if isTrailing n then stop .loneSurrogate
    else if isLeading n then readSecondHalf n rest
    else .ok (Char.ofNat n, rest)
  | c :: cs =>
    match c with
    | '"' => .ok ('"', cs)
    | '\\' => .ok ('\\', cs)
    | '/' => .ok ('/', cs)
    | 'b' => .ok ('\x08', cs)
    | 'f' => .ok ('\x0c', cs)
    | 'n' => .ok ('\n', cs)
    | 'r' => .ok ('\r', cs)
    | 't' => .ok ('\t', cs)
    | _ => stop .escape

/-- The characters of a string up to its closing quote. Every character takes one step at least, so
as many steps as there are characters are enough. -/
def readStringChars : Nat → Reader (List Char)
  | 0, _ => stop .endOfString
  | _ + 1, [] => stop .endOfString
  | steps + 1, c :: cs =>
    if c = '"' then .ok ([], cs)
    else if c = '\\' then do
      let (d, rest) ← readEscape cs
      let (ds, rest) ← readStringChars steps rest
      .ok (d :: ds, rest)
    else if c.toNat < 0x20 then stop .control
    else do
      let (ds, rest) ← readStringChars steps cs
      .ok (c :: ds, rest)

/-- A string after its opening quote. -/
def readString : Reader String := fun cs ↦ do
  let (ds, rest) ← readStringChars (cs.length + 1) cs
  .ok (String.ofList ds, rest)

/-- A number read from a text. -/
inductive Number where
  | int (n : Int)
  | float (x : Double)
  deriving DecidableEq, Repr

/-- The value that a number is. -/
def Number.toJson : Number → Json
  | .int n => .int n
  | .float x => .float x

/-- What a number is called in a message. -/
def Number.found : Number → Found
  | .int n => .integer n
  | .float _ => .float

/-- Is the character a decimal digit? -/
def isDigit (c : Char) : Bool := (Decimal.digit? c).isSome

/-- The digits at the front of a text and what follows them. -/
def spanDigits (cs : List Char) : List Char × List Char := (cs.takeWhile isDigit, cs.dropWhile isDigit)

/-- Past this a significand takes no more digits. -/
def significandLimit : Nat := Nat.pow 2 64

/-- Take digits into a significand as long as it stays below the limit. -/
def accumulate : Nat → List Char → Nat × List Char
  | n, [] => (n, [])
  | n, c :: cs =>
    let m := 10 * n + (Decimal.digit? c).getD 0
    if m < significandLimit then accumulate m cs else (n, c :: cs)

/-- The double of a significand and a power of ten, or a number out of range. -/
def makeFloat (negative : Bool) (significand : Nat) (exponent : Int) (rest : List Char) :
    Except Fault (Number × List Char) :=
  match Double.ofDecimal negative significand exponent with
  | some x => .ok (.float x, rest)
  | none => stop .numberOutOfRange

/-- The largest number that an exponent's digits may stand for. -/
def exponentLimit : Nat := Nat.pow 2 31

/-- The sum kept between the bounds of a signed 32-bit number. -/
def clampExponent (e : Int) : Int := max (-0x80000000) (min e 0x7fffffff)

/-- An exponent after its letter. -/
def readExponent (negative : Bool) (significand : Nat) (exponent : Int) : Reader Number := fun cs ↦
  let (down, cs) := match cs with
    | '+' :: rest => (false, rest)
    | '-' :: rest => (true, rest)
    | _ => (false, cs)
  match cs with
  | [] => stop .endOfValue
  | c :: _ =>
    if isDigit c then
      let (ds, rest) := spanDigits cs
      let e := Decimal.value ds
      if e < exponentLimit then
        makeFloat negative significand
          (clampExponent (if down then exponent - e else exponent + e)) rest
      else if significand ≠ 0 ∧ !down then stop .numberOutOfRange
      else .ok (.float (Double.zero negative), rest)
    else stop .number

/-- What may follow the digits of a float: an exponent, or nothing. -/
def readFloatEnd (negative : Bool) (significand : Nat) (exponent : Int) : Reader Number
  | 'e' :: rest | 'E' :: rest => readExponent negative significand exponent rest
  | cs => makeFloat negative significand exponent cs

/-- A fraction after its point; digits past the significand's limit are dropped. -/
def readFraction (negative : Bool) (significand : Nat) (exponent : Int) : Reader Number := fun cs ↦
  let (ds, rest) := spanDigits cs
  if ds.isEmpty then (if rest.isEmpty then stop .endOfValue else stop .number)
  else
    let (m, unused) := accumulate significand ds
    readFloatEnd negative m (exponent - (ds.length - unused.length : Nat)) rest

/-- The integer of a significand with a sign, or a float where it does not fit 64 bits. -/
def makeInteger (negative : Bool) (significand : Nat) : Number :=
  if !negative then .int significand
  else if significand = 0 ∨ 0x8000000000000000 < significand then
    .float (((Double.ofNat? significand).getD (Double.zero false)).negate)
  else .int (-(significand : Int))

/-- What may follow the integer digits of a number. -/
def readNumberEnd (negative : Bool) (ds : List Char) : Reader Number := fun cs ↦
  let (m, unused) := accumulate 0 ds
  match cs with
  | '.' :: rest => readFraction negative m unused.length rest
  | 'e' :: rest | 'E' :: rest => readExponent negative m unused.length rest
  | _ =>
    if unused.isEmpty then .ok (makeInteger negative m, cs)
    else makeFloat negative m unused.length cs

/-- A number after its sign. -/
def readUnsigned (negative : Bool) : Reader Number
  | [] => stop .endOfValue
  | '0' :: cs =>
    if (cs.head?.map isDigit).getD false then stop .number else readNumberEnd negative ['0'] cs
  | c :: cs =>
    if isDigit c then
      let (ds, rest) := spanDigits (c :: cs)
      readNumberEnd negative ds rest
    else stop .number

/-- A number that begins with a minus sign or a digit. -/
def readNumber : Reader Number
  | '-' :: cs => readUnsigned true cs
  | cs => readUnsigned false cs

/-- The end of a text: nothing but blanks may follow. -/
def readEnd (cs : List Char) : Except Fault Unit :=
  if (skipGap cs).isEmpty then .ok () else stop .trailingCharacters

/-- Pass over an escape behind its backslash; a number need not stand for a character. -/
def passEscape : List Char → Except Fault (List Char)
  | [] => stop .endOfString
  | 'u' :: cs => (readHex cs).map Prod.snd
  | c :: cs => if ['"', '\\', '/', 'b', 'f', 'n', 'r', 't'].contains c then .ok cs else stop .escape

/-- Pass over the rest of a string. -/
def passStringChars : Nat → List Char → Except Fault (List Char)
  | 0, _ => stop .endOfString
  | _ + 1, [] => stop .endOfString
  | steps + 1, c :: cs =>
    if c = '"' then .ok cs
    else if c = '\\' then passEscape cs >>= passStringChars steps
    else if c.toNat < 0x20 then stop .control
    else passStringChars steps cs

/-- Pass over a string after its opening quote. -/
def passString (cs : List Char) : Except Fault (List Char) := passStringChars (cs.length + 1) cs

/-- Pass over at least one digit. -/
def passDigits (cs : List Char) : Except Fault (List Char) :=
  if (cs.takeWhile isDigit).isEmpty then stop .number else .ok (cs.dropWhile isDigit)

/-- Pass over an exponent, if there is one. -/
def passExponent : List Char → Except Fault (List Char)
  | 'e' :: cs | 'E' :: cs =>
    match cs with
    | '+' :: rest | '-' :: rest => passDigits rest
    | _ => passDigits cs
  | cs => .ok cs

/-- Pass over a number after its sign. -/
def passUnsigned (cs : List Char) : Except Fault (List Char) := do
  let rest ← match cs with
    | '0' :: rest => if (rest.head?.map isDigit).getD false then stop .number else pure rest
    | _ => passDigits cs
  match rest with
  | '.' :: rest => passDigits rest >>= passExponent
  | _ => passExponent rest

/-- Which container is open: a list or an object. -/
inductive Frame where
  | list
  | object
  deriving DecidableEq, Repr

/-- A key and its colon, after blanks. -/
def passKey (cs : List Char) : Except Fault (List Char) :=
  match skipGap cs with
  | [] => stop .endOfObject
  | '"' :: rest => do
    match skipGap (← passString rest) with
    | [] => stop .endOfObject
    | ':' :: rest => .ok rest
    | _ => stop .colon
  | _ => stop .key

mutual

/-- Pass over a value and all that follows in the open containers. Each step takes a character. -/
def passValue : Nat → List Frame → List Char → Except Fault (List Char)
  | 0, _, _ => stop .endOfValue
  | steps + 1, frames, cs =>
    match skipGap cs with
    | [] => stop .endOfValue
    | 'n' :: rest => readWord ['u', 'l', 'l'] rest >>= passAfter steps frames
    | 't' :: rest => readWord ['r', 'u', 'e'] rest >>= passAfter steps frames
    | 'f' :: rest => readWord ['a', 'l', 's', 'e'] rest >>= passAfter steps frames
    | '-' :: rest => passUnsigned rest >>= passAfter steps frames
    | '"' :: rest => passString rest >>= passAfter steps frames
    | '[' :: rest =>
      match skipGap rest with
      | [] => stop .endOfList
      | ']' :: rest => passAfter steps frames rest
      | rest => passValue steps (.list :: frames) rest
    | '\x7b' :: rest =>
      match skipGap rest with
      | [] => stop .endOfObject
      | '\x7d' :: rest => passAfter steps frames rest
      | rest => passKey rest >>= passValue steps (.object :: frames)
    | c :: rest =>
      if isDigit c then passUnsigned (c :: rest) >>= passAfter steps frames else stop .value

/-- What may follow a value in the innermost open container. -/
def passAfter : Nat → List Frame → List Char → Except Fault (List Char)
  | _, [], cs => .ok cs
  | 0, _ :: _, _ => stop .endOfValue
  | steps + 1, .list :: frames, cs =>
    match skipGap cs with
    | [] => stop .endOfList
    | ',' :: rest => passValue steps (.list :: frames) rest
    | ']' :: rest => passAfter steps frames rest
    | _ => stop .commaOrBracket
  | steps + 1, .object :: frames, cs =>
    match skipGap cs with
    | [] => stop .endOfObject
    | ',' :: rest => passKey rest >>= passValue steps (.object :: frames)
    | '\x7d' :: rest => passAfter steps frames rest
    | _ => stop .commaOrBrace

end

/-- Pass over one value. -/
def skipValue (cs : List Char) : Except Fault (List Char) := passValue (2 * cs.length + 2) [] cs

/-- What stands at the front of a text, where a value of another kind was expected. -/
def readFound (cs : List Char) : Except Fault Found :=
  match cs with
  | [] => stop .endOfValue
  | 'n' :: rest => (readWord ['u', 'l', 'l'] rest).map fun _ ↦ .null
  | 't' :: rest => (readWord ['r', 'u', 'e'] rest).map fun _ ↦ .boolean true
  | 'f' :: rest => (readWord ['a', 'l', 's', 'e'] rest).map fun _ ↦ .boolean false
  | '-' :: rest => (readUnsigned true rest).map fun p ↦ p.1.found
  | '"' :: rest => (readString rest).map fun p ↦ .string p.1
  | '[' :: _ => .ok .sequence
  | '\x7b' :: _ => .ok .map
  | c :: rest =>
    if isDigit c then (readUnsigned false (c :: rest)).map fun p ↦ p.1.found else stop .value

/-- The fault of a text whose front is not what was expected. -/
def unexpected {α : Type} (expected : String) (cs : List Char) : Except Fault α :=
  readFound cs >>= fun found ↦ .error (.wrongType found expected)

/-- Blanks are passed over once. -/
theorem skipGap_cons_of_not_gap {c : Char} (h : isGap c = false) (cs : List Char) :
    skipGap (c :: cs) = c :: cs := by
  simp [skipGap, h]

end VersionedStore.Json
