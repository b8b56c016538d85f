import VersionedStore.Declaration.Literal
import VersionedStore.Text.Quoted

/-!
# From text to token trees

Blanks and comments separate tokens; a documentation comment stands for an attribute with its text.
The delimiters must match.
-/

namespace VersionedStore.Declaration

open Text

/-- A tree without groups of its own, or one side of a delimiter. -/
inductive Lexeme where
  | tree (t : Tree)
  | opening (d : Delimiter)
  | closing (d : Delimiter)

/-- May the character stand alone as a mark? -/
def isMark (c : Char) : Bool := "~!@#$%^&*-=+|;:,<.>/?".toList.contains c

/-- Does the character separate tokens? -/
def isSeparator (c : Char) : Bool := isBlank c || c == '\u200e' || c == '\u200f'

/-- Pass over a comment that may hold others, behind its opening; `depth` are open. -/
def passBlock? : Nat → List Char → Option (List Char)
  | _, [] => none
  | depth, '/' :: '*' :: cs => passBlock? (depth + 1) cs
  | depth, '*' :: '/' :: cs => if depth ≤ 1 then some cs else passBlock? (depth - 1) cs
  | depth, _ :: cs => passBlock? depth cs

/-- Does a documentation comment begin here? -/
def isDocumentation : List Char → Bool
  | '/' :: '/' :: '!' :: _ | '/' :: '*' :: '!' :: _ => true
  | '/' :: '/' :: '/' :: cs => cs.head? != some '/'
  | '/' :: '*' :: '*' :: '/' :: _ => false
  | '/' :: '*' :: '*' :: cs => cs.head? != some '*'
  | _ => false

/-- Pass over blanks and comments. Each round takes a character. -/
def skipComments : Nat → List Char → Option (List Char)
  | 0, cs => some cs
  | n + 1, cs =>
    if isDocumentation cs then some cs
    else
      match cs with
      | '/' :: '/' :: rest => skipComments n (rest.dropWhile (· ≠ '\n'))
      | '/' :: '*' :: rest => passBlock? 1 rest >>= skipComments n
      | c :: rest => if isSeparator c then skipComments n rest else some cs
      | [] => some []

/-- The characters before those that are left. -/
def before (cs rest : List Char) : List Char := cs.take (cs.length - rest.length)

/-- Characters as they stand between the quotes of a literal. A zero before an octal digit has two
digits. -/
def literalChars : List Char → List Char
  | [] => []
  | '\x00' :: cs =>
    (if cs.head?.any fun d ↦ '0' ≤ d && d ≤ '7' then ['\\', 'x', '0', '0'] else ['\\', '0']) ++
      literalChars cs
  | c :: cs => quoteChar c ++ literalChars cs

/-- A documentation comment as the trees of an attribute. -/
def documentation (inner : Bool) (content : List Char) : List Lexeme :=
  let text := String.ofList ('"' :: literalChars content ++ ['"'])
  let doc : List Tree := [.word "doc", .mark '=' false, .literal .string text]
  [.tree (.mark '#' false)] ++ (if inner then [.tree (.mark '!' false)] else []) ++
    [.tree (.group .bracket doc)]

/-- Does a carriage return stand anywhere but before a line feed? -/
def hasLoneReturn : List Char → Bool
  | [] => false
  | '\r' :: cs => cs.head? != some '\n' || hasLoneReturn cs
  | _ :: cs => hasLoneReturn cs

/-- The lexemes of a documentation comment and the characters behind it. -/
def documentation? (cs : List Char) : Option (List Lexeme × List Char) :=
  if isDocumentation cs then
    match cs with
    | '/' :: '/' :: c :: rest =>
      let line := rest.takeWhile (· ≠ '\n')
      let behind := rest.dropWhile (· ≠ '\n')
      let line := if line.getLast? = some '\r' ∧ behind ≠ [] then line.dropLast else line
      if hasLoneReturn line then none else some (documentation (c == '!') line, behind)
    | '/' :: '*' :: c :: rest => do
      let behind ← passBlock? 1 rest
      let content := before rest behind
      let content := content.take (content.length - 2)
      if hasLoneReturn content then none else some (documentation (c == '!') content, behind)
    | _ => none
  else none

/-- The characters behind a word, if one begins here. -/
def passWord? : List Char → Option (List Char)
  | c :: cs => if isIdentifierStart c then some (cs.dropWhile isIdentifierRest) else none
  | [] => none

/-- The words that cannot be made plain names. -/
def neverNames : List String := ["_", "super", "self", "Self", "crate"]

/-- The characters behind a word that may be marked as a plain name. -/
def passName? (cs : List Char) : Option (List Char) :=
  match cs with
  | 'r' :: '#' :: rest => do
    let behind ← passWord? rest
    if neverNames.contains (String.ofList (before rest behind)) then none else some behind
  | _ => passWord? cs

/-- A literal that begins here, by the characters behind it. -/
def literal? (cs : List Char) : Option (LiteralKind × List Char) :=
  let suffixed (kind : LiteralKind) (rest : Option (List Char)) : Option (LiteralKind × List Char) :=
    rest.map fun rest ↦ (kind, skipSuffix rest)
  let quoted (q : Quoting) (rest : List Char) : Option (List Char) :=
    (readQuoted? q (rest.length + 1) rest).map Prod.snd
  let raw (q : Quoting) (rest : List Char) : Option (List Char) := (readRawString? q rest).map Prod.snd
  match cs with
  | '"' :: rest => suffixed .string (quoted .string rest)
  | '\'' :: rest => suffixed .character (readCharacter? .string rest)
  | 'b' :: '\'' :: rest => suffixed .byte (readCharacter? .bytes rest)
  | 'b' :: '"' :: rest => suffixed .bytes (quoted .bytes rest)
  | 'c' :: '"' :: rest => suffixed .cString (quoted .cString rest)
  | 'b' :: 'r' :: rest => suffixed .bytes (raw .bytes rest)
  | 'c' :: 'r' :: rest => suffixed .cString (raw .cString rest)
  | 'r' :: rest => suffixed .string (raw .string rest)
  | _ => passNumber? cs

/-- The beginnings of literals with a letter in front. No word begins like them. -/
def literalStarts : List String :=
  ["r\"", "r#\"", "r##", "b\"", "b'", "br\"", "br#", "c\"", "cr\"", "cr#"]

/-- What stands where something could not be expanded. -/
def placeholder : List Char := "(/*ERROR*/)".toList

/-- Does a mark begin here? Comments do not begin with one. -/
def startsMark : List Char → Bool
  | '/' :: c :: _ => c != '/' && c != '*'
  | c :: _ => isMark c || c == '\''
  | [] => false

/-- A lifetime behind its quote, by the characters behind it. A quote does not follow it, and
neither does a hash, but for one inside its name. -/
def passLifetime? (cs : List Char) : Option (List Char) := do
  let behind ← passName? cs
  let isMarked := cs.take 2 == ['r', '#']
  if behind.head? = some '\'' ∨ (behind.head? = some '#' ∧ ¬ isMarked) then none else some behind

/-- The lexeme that begins here, and the characters behind it. -/
def lexeme? (cs : List Char) : Option (Lexeme × List Char) :=
  match cs with
  | [] => none
  | '(' :: rest =>
    if placeholder.isPrefixOf cs then
      some (.tree (.literal .placeholder (String.ofList placeholder)), cs.drop placeholder.length)
    else some (.opening .parenthesis, rest)
  | ')' :: rest => some (.closing .parenthesis, rest)
  | '[' :: rest => some (.opening .bracket, rest)
  | ']' :: rest => some (.closing .bracket, rest)
  | '\x7b' :: rest => some (.opening .brace, rest)
  | '\x7d' :: rest => some (.closing .brace, rest)
  | c :: rest =>
    match literal? cs with
    | some (kind, behind) => some (.tree (.literal kind (String.ofList (before cs behind))), behind)
    | none =>
      if c = '\'' then do
        let behind ← passLifetime? rest
        some (.tree (.lifetime (String.ofList (before rest behind))), behind)
      else if isMark c then
        if startsMark cs then some (.tree (.mark c (startsMark rest)), rest) else none
      else if literalStarts.any fun s ↦ s.toList.isPrefixOf cs then none
      else do
        let behind ← passName? cs
        some (.tree (.word (String.ofList (before cs behind))), behind)

/-- All lexemes of a text. Each round takes a character. -/
def lexemes? : Nat → List Char → Option (List Lexeme)
  | 0, _ => none
  | n + 1, cs => do
    let cs ← skipComments cs.length cs
    match cs with
    | [] => some []
    | cs =>
      match documentation? cs with
      | some (ls, rest) => (lexemes? n rest).map (ls ++ ·)
      | none => do
        let (l, rest) ← lexeme? cs
        (lexemes? n rest).map (l :: ·)

/-- Put lexemes into groups. The open groups are given with the trees before them, the innermost
first. -/
def grouped? : List Lexeme → List Tree → List (Delimiter × List Tree) → Option (List Tree)
  | [], done, [] => some done.reverse
  | [], _, _ :: _ => none
  | .tree t :: ls, done, outer => grouped? ls (t :: done) outer
  | .opening d :: ls, done, outer => grouped? ls [] ((d, done) :: outer)
  | .closing _ :: _, _, [] => none
  | .closing d :: ls, done, (e, before) :: outer =>
    if d = e then grouped? ls (.group d done.reverse :: before) outer else none

/-- The trees of a text; a byte order mark may stand at its front. -/
def trees? (s : String) : Option (List Tree) :=
  let cs := match s.toList with
    | '\uFEFF' :: cs => cs
    | cs => cs
  (lexemes? (cs.length + 1) cs).bind fun ls ↦ grouped? ls [] []

end VersionedStore.Declaration
