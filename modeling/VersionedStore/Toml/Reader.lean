import VersionedStore.Toml.Scope

/-!
# TOML files

A file is a row of lines: keys with values, headers that begin tables, comments and blanks. Reading
gives what is defined under which path, or nothing when the file is malformed.
-/

namespace VersionedStore.Toml

open Text

/-- Is the character a blank inside a line? -/
def isSpace (c : Char) : Bool := c == ' ' || c == '\t'

/-- The characters without the blanks at the front. -/
def skipSpaces (cs : List Char) : List Char := cs.dropWhile isSpace

/-- Is the character a control that text may not hold? -/
def isForbidden (c : Char) : Bool := (c.toNat < 0x20 && c != '\t') || c.toNat == 0x7F

/-- The characters behind a line break, if there is one here. -/
def lineBreak? : List Char → Option (List Char)
  | '\n' :: cs | '\r' :: '\n' :: cs => some cs
  | _ => none

/-- The characters behind a comment, if there is one here; it ends before the line break. -/
def skipComment : List Char → List Char
  | '#' :: cs => cs.dropWhile fun c ↦ !isForbidden c
  | cs => cs

/-- Pass over blanks, comments and line breaks. Each round takes a character. -/
def skipGap : Nat → List Char → List Char
  | 0, cs => cs
  | n + 1, cs =>
    let rest := skipComment (skipSpaces cs)
    match lineBreak? rest with
    | some rest => skipGap n rest
    | none => rest

/-- The characters without the blanks and line breaks at the front. -/
def skipLines : List Char → List Char
  | ' ' :: cs | '\t' :: cs | '\n' :: cs | '\r' :: '\n' :: cs => skipLines cs
  | cs => cs

/-- The character with a number of so many hexadecimal digits. -/
def codePoint? (width : Nat) (cs : List Char) : Option (Char × List Char) := do
  let ds ← (cs.take width).mapM HexDigit.ofChar?
  let n := hexValue ds
  if ds.length = width ∧ n.isValidChar then some (Char.ofNat n, cs.drop width) else none

/-- What stands behind a backslash. -/
def escape? : List Char → Option (Char × List Char)
  | 'b' :: cs => some ('\x08', cs)
  | 't' :: cs => some ('\t', cs)
  | 'n' :: cs => some ('\n', cs)
  | 'f' :: cs => some ('\x0c', cs)
  | 'r' :: cs => some ('\r', cs)
  | 'e' :: cs => some ('\x1b', cs)
  | '"' :: cs => some ('"', cs)
  | '\\' :: cs => some ('\\', cs)
  | 'x' :: cs => codePoint? 2 cs
  | 'u' :: cs => codePoint? 4 cs
  | 'U' :: cs => codePoint? 8 cs
  | _ => none

/-- A text on one line behind its opening quote. Each step takes a character. -/
def readLine? (quote : Char) : Nat → List Char → Option (List Char × List Char)
  | 0, _ | _, [] => none
  | n + 1, c :: cs =>
    if c = quote then some ([], cs)
    else if c = '\\' ∧ quote = '"' then do
      let (d, cs) ← escape? cs
      let (ds, cs) ← readLine? quote n cs
      some (d :: ds, cs)
    else if isForbidden c then none
    else do
      let (ds, cs) ← readLine? quote n cs
      some (c :: ds, cs)

/-- Pass over a text on several lines behind its opening quotes. -/
def passLines? (quote : Char) : Nat → List Char → Option (List Char)
  | 0, _ | _, [] => none
  | n + 1, c :: cs =>
    if c = quote ∧ cs.take 2 = [quote, quote] then
      let quotes := 1 + (cs.takeWhile (· = quote)).length
      some ((c :: cs).drop (min quotes 5))
    else if c = '\\' ∧ quote = '"' then
      match lineBreak? (skipSpaces cs) with
      | some rest => passLines? quote n (skipLines rest)
      | none => do
        let (_, cs) ← escape? cs
        passLines? quote n cs
    else
      match lineBreak? (c :: cs) with
      | some rest => passLines? quote n rest
      | none => if isForbidden c then none else passLines? quote n cs

/-- May the character stand in a key without quotes? -/
def isBare (c : Char) : Bool := c.isAlphanum || c == '-' || c == '_'

/-- One part of a key. -/
def keyPart? (cs : List Char) : Option (String × List Char) :=
  match cs with
  | [] => none
  | c :: rest =>
    if c = '"' ∨ c = '\'' then
      (readLine? c (rest.length + 1) rest).map fun p ↦ (String.ofList p.1, p.2)
    else if isBare c then some (String.ofList (cs.takeWhile isBare), cs.dropWhile isBare)
    else none

/-- A key with its dots. Each part takes a character. -/
def key? : Nat → List Char → Option (List String × List Char)
  | 0, _ => none
  | n + 1, cs => do
    let (part, cs) ← keyPart? (skipSpaces cs)
    match skipSpaces cs with
    | '.' :: cs => do
      let (parts, cs) ← key? n cs
      some (part :: parts, cs)
    | cs => some ([part], cs)

/-- May the character stand in a value without quotes? -/
def isPlain (c : Char) : Bool := isBare c || c == '+' || c == '.' || c == ':'

/-- The spelling of a value without quotes; a blank may stand between a date and a time. -/
def spanPlain (cs : List Char) : List Char × List Char :=
  let first := cs.takeWhile isPlain
  let rest := cs.dropWhile isPlain
  match rest with
  | ' ' :: c :: more =>
    if date? first = some [] ∧ isDigit c then
      (first ++ ' ' :: (c :: more).takeWhile isPlain, (c :: more).dropWhile isPlain)
    else (first, rest)
  | _ => (first, rest)

/-- How deep arrays and inline tables may be nested. -/
def nestingLimit : Nat := 80

mutual

/-- A value. Each step takes a character, and `room` bounds the nesting. -/
def value? : Nat → Nat → List Char → Option (Value × List Char)
  | 0, _, _ => none
  | n + 1, room, cs =>
    match cs with
    | '"' :: '"' :: '"' :: cs => do
      let cs ← passLines? '"' (cs.length + 1) cs
      some (.text, cs)
    | '\'' :: '\'' :: '\'' :: cs => do
      let cs ← passLines? '\'' (cs.length + 1) cs
      some (.text, cs)
    | '"' :: cs => do
      let (_, cs) ← readLine? '"' (cs.length + 1) cs
      some (.text, cs)
    | '\'' :: cs => do
      let (_, cs) ← readLine? '\'' (cs.length + 1) cs
      some (.text, cs)
    | '[' :: cs =>
      match room with
      | 0 => none
      | room + 1 => do
        let cs ← arrayItems? n room cs
        some (.array, cs)
    | '\x7b' :: cs =>
      match room with
      | 0 => none
      | room + 1 => do
        let cs ← tableItems? n room [] cs
        some (.table, cs)
    | cs => do
      let (spelling, rest) := spanPlain cs
      let v ← scalar? spelling
      some (v, rest)

/-- The values of an array up to its end. -/
def arrayItems? : Nat → Nat → List Char → Option (List Char)
  | 0, _, _ => none
  | n + 1, room, cs =>
    match skipGap cs.length cs with
    | ']' :: cs => some cs
    | cs => do
      let (_, cs) ← value? n room cs
      match skipGap cs.length cs with
      | ']' :: cs => some cs
      | ',' :: cs => arrayItems? n room cs
      | _ => none

/-- The keys and values of an inline table up to its end. -/
def tableItems? : Nat → Nat → Scope → List Char → Option (List Char)
  | 0, _, _, _ => none
  | n + 1, room, scope, cs =>
    match skipGap cs.length cs with
    | '\x7d' :: cs => some cs
    | cs => do
      let (keys, cs) ← key? (cs.length + 1) cs
      let '=' :: cs := cs | none
      let (v, cs) ← value? n room (skipGap cs.length cs)
      let scope ← scope.assign [] keys v
      match skipGap cs.length cs with
      | '\x7d' :: cs => some cs
      | ',' :: cs => tableItems? n room scope cs
      | _ => none

end

/-- The end of a line behind its last part. -/
def lineEnd? (cs : List Char) : Option (List Char) :=
  match skipComment (skipSpaces cs) with
  | [] => some []
  | rest => lineBreak? rest

/-- The lines of a file; `table` is the table that the last header began. -/
def lines? : Nat → List Step → Scope → List Char → Option Scope
  | 0, _, _, _ => none
  | n + 1, table, scope, cs =>
    match skipSpaces cs with
    | [] => some scope
    | '[' :: '[' :: cs => do
      let (keys, cs) ← key? (cs.length + 1) cs
      let ']' :: ']' :: cs := cs | none
      let (table, scope) ← scope.beginItem keys
      let cs ← lineEnd? cs
      lines? n table scope cs
    | '[' :: cs => do
      let (keys, cs) ← key? (cs.length + 1) cs
      let ']' :: cs := cs | none
      let (table, scope) ← scope.beginTable keys
      let cs ← lineEnd? cs
      lines? n table scope cs
    | c :: cs =>
      if c = '#' ∨ c = '\n' ∨ c = '\r' then do
        let cs ← lineEnd? (c :: cs)
        lines? n table scope cs
      else do
        let (keys, cs) ← key? (cs.length + 2) (c :: cs)
        let '=' :: cs := cs | none
        let (v, cs) ← value? (2 * cs.length + 2) nestingLimit (skipSpaces cs)
        let scope ← scope.assign table keys v
        let cs ← lineEnd? cs
        lines? n table scope cs

/-- Read a file; a byte order mark may stand at its front. -/
def read? (s : String) : Option Scope :=
  let cs := match s.toList with
    | '\uFEFF' :: cs => cs
    | cs => cs
  lines? (cs.length + 1) [] [] cs

end VersionedStore.Toml
