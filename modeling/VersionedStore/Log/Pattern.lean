import VersionedStore.Text.Alphanumeric
import VersionedStore.Text.Blank
import VersionedStore.Text.Hexadecimal

/-!
# Patterns of values

Whether a text is a pattern: a regular expression, or a number, which may have a plus sign in front.
Since a comma, an equals sign and a closing brace end a pattern, it holds no counted repetitions.
-/

namespace VersionedStore.Log

open Text

/-- The letters that stand for a character or a place behind a backslash. -/
def escapeLetters : List Char := "aftnrvAz".toList

/-- What an escape stands for if it is a character, behind its backslash, and what follows. -/
def passEscape? : List Char → Option (Option Char × List Char)
  | [] => none
  | c :: cs =>
    let coded (width : Nat) : Option (Option Char × List Char) := do
      let ds ← (cs.take width).mapM HexDigit.ofChar?
      let n := hexValue ds
      if ds.length = width ∧ n.isValidChar then some (some (Char.ofNat n), cs.drop width) else none
    if c = 'x' then coded 2
    else if c = 'u' then coded 4
    else if c = 'U' then coded 8
    else if escapeLetters.contains c then some (none, cs)
    else if c.toNat < 0x80 ∧ ¬ c.isAlphanum ∧ c ≠ '<' ∧ c ≠ '>' then some (some c, cs)
    else none

/-- A member of a class of characters, or the first one of a range. -/
def passMember? : List Char → Option (Option Char × List Char)
  | '\\' :: cs =>
    if cs.head? = some 'A' ∨ cs.head? = some 'z' then none else passEscape? cs
  | c :: cs => some (some c, cs)
  | [] => none

/-- What follows the opening of a class of characters: a sign that turns it round, and what would
mean something else further on. -/
def passClassStart (cs : List Char) : List Char :=
  let cs := if cs.head? = some '^' then cs.tail else cs
  match cs with
  | '-' :: _ => cs.dropWhile (· = '-')
  | ']' :: rest => rest
  | _ => cs

/-- What follows classes of characters of which so many are open. Each round takes a member. -/
def passClasses? : Nat → Nat → List Char → Option (List Char)
  | 0, _, _ | _, _, [] => none
  | _ + 1, 0, cs => some cs
  | n + 1, depth + 1, c :: cs =>
    match c, cs with
    | '[', _ => passClasses? n (depth + 2) (passClassStart cs)
    | ']', _ => if depth = 0 then some cs else passClasses? n depth cs
    | '&', '&' :: rest | '-', '-' :: rest | '~', '~' :: rest => passClasses? n (depth + 1) rest
    | _, _ => do
      let (first, rest) ← passMember? (c :: cs)
      match rest with
      | '-' :: ']' :: _ | '-' :: '-' :: _ => passClasses? n (depth + 1) rest
      | '-' :: rest =>
        let (last, rest) ← passMember? rest
        match first, last with
        | some first, some last =>
          if first ≤ last then passClasses? n (depth + 1) rest else none
        | _, _ => passClasses? n (depth + 1) rest
      | _ => passClasses? n (depth + 1) rest

/-- What follows the name of a group, which ends with an angle. -/
def passGroupName? (cs : List Char) : Option (List Char) :=
  let name := cs.takeWhile (· ≠ '>')
  match cs.dropWhile (· ≠ '>') with
  | [] => none
  | _ :: rest =>
    let isFirst (c : Char) : Bool := c == '_' || isAlphanumeric c && !c.isDigit
    let isLater (c : Char) : Bool := c == '_' || c == '.' || isAlphanumeric c
    if name.head?.any isFirst && name.all isLater then some rest else none

/-- Is the text a regular expression, where `depth` groups are open? `something` tells whether there
is an expression that could be repeated. Each round takes a character. -/
def isExpression : Nat → Nat → Bool → List Char → Bool
  | _, depth, _, [] => depth == 0
  | 0, _, _, _ :: _ => false
  | n + 1, depth, something, c :: cs =>
    match c, cs with
    | '(', '?' :: 'P' :: '<' :: rest | '(', '?' :: '<' :: rest =>
      (passGroupName? rest).any fun rest ↦ isExpression n (depth + 1) false rest
    | '(', '?' :: rest =>
      let flags := rest.takeWhile fun d ↦ "imsURux-".toList.contains d
      match rest.drop flags.length with
      | ':' :: rest => isExpression n (depth + 1) false rest
      | ')' :: rest => !flags.isEmpty && isExpression n depth false rest
      | _ => false
    | '(', _ => isExpression n (depth + 1) false cs
    | ')', _ => depth != 0 && isExpression n (depth - 1) true cs
    | '|', _ => isExpression n depth false cs
    | '*', _ | '+', _ | '?', _ =>
      something && isExpression n depth true (if cs.head? = some '?' then cs.tail else cs)
    | '\x7b', _ => false
    | '[', _ =>
      (passClasses? (cs.length + 1) 1 (passClassStart cs)).any (isExpression n depth true)
    | '\\', _ => (passEscape? cs).any fun p ↦ isExpression n depth true p.2
    | _, _ => isExpression n depth true cs

/-- Is the text a decimal number without its sign? -/
def isNumber (cs : List Char) : Bool :=
  let whole := cs.dropWhile Char.isDigit
  let rest := if whole.head? = some '.' then whole.tail.dropWhile Char.isDigit else whole
  let hasDigit := (cs.take (cs.length - rest.length)).any Char.isDigit
  match rest with
  | [] => hasDigit
  | e :: exponent =>
    let digits := if exponent.head?.any ("+-".toList.contains ·) then exponent.tail else exponent
    hasDigit && (e == 'e' || e == 'E') && !digits.isEmpty && digits.all Char.isDigit

/-- Is the text a pattern of values? -/
def isValuePattern (cs : List Char) : Bool :=
  match cs with
  | '+' :: rest =>
    isNumber rest || ["inf", "infinity", "nan"].contains (asciiSmall (String.ofList rest))
  | _ => isExpression (cs.length + 1) 0 false cs

end VersionedStore.Log
