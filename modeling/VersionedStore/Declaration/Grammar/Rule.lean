import VersionedStore.Declaration.Literal
import VersionedStore.Declaration.Phrase

/-!
# The rules of the grammar

The names of the rules for attributes, types, expressions, patterns, statements and items, with the
tests and the phrases that they share. What each rule says stands in the modules beside this one.
-/

namespace VersionedStore.Declaration

/-- The words that are not names unless they are marked as such. -/
def keywords : List String :=
  ["_", "abstract", "as", "async", "await", "become", "box", "break", "const", "continue", "crate", "do",
    "dyn", "else", "enum", "extern", "false", "final", "fn", "for", "if", "impl", "in", "let", "loop",
    "macro", "match", "mod", "move", "mut", "override", "priv", "pub", "ref", "return", "Self", "self",
    "static", "struct", "super", "trait", "true", "try", "type", "typeof", "unsafe", "unsized", "use",
    "virtual", "where", "while", "yield"]

namespace Tree

/-- Is the tree a name? -/
def isName : Tree → Bool
  | .word w => !keywords.contains w
  | _ => false

/-- Is the tree a name or one of these words? -/
def isNameOr (words : List String) (t : Tree) : Bool := t.isName || t.isWordOf words

/-- May the tree be a segment of a path? -/
def isSegment : Tree → Bool := isNameOr ["super", "self", "Self", "crate"]

/-- Is the tree a name or a lifetime? -/
def isParameter (t : Tree) : Bool := t.isName || t.isLifetime

/-- Is the tree a literal for text? -/
def isString : Tree → Bool
  | .literal kind _ => kind == .string
  | _ => false

/-- Is the tree the literal of a number? -/
def isNumber : Tree → Bool
  | .literal kind _ => kind == .integer || kind == .float
  | _ => false

/-- Is the tree a number that counts members? -/
def isIndex : Tree → Bool
  | .literal .integer spelling => isIndexText spelling.toList
  | _ => false

/-- Any tree. -/
def any : Tree → Bool := fun _ ↦ true

end Tree

/-- The way arguments stand in a path: in a type behind the name at once, in a value behind two
colons. -/
inductive PathStyle where
  | type
  | value
  deriving DecidableEq, Repr

/-- Where bounds stand. Only those of an opaque type may say what they capture, and those of a type
without a name are never constant. -/
inductive BoundPlace where
  | opaqueType
  | parameter
  | object
  deriving DecidableEq, Repr

/-- How tightly an operator binds its operands, from the loosest on. -/
inductive Strength where
  | assign
  | range
  | or
  | and
  | compare
  | bitOr
  | bitXor
  | bitAnd
  | shift
  | sum
  | product
  | cast
  deriving DecidableEq, Repr

namespace Strength

/-- The place of a strength among all. -/
def rank : Strength → Nat
  | .assign => 0
  | .range => 1
  | .or => 2
  | .and => 3
  | .compare => 4
  | .bitOr => 5
  | .bitXor => 6
  | .bitAnd => 7
  | .shift => 8
  | .sum => 9
  | .product => 10
  | .cast => 11

/-- The next tighter strength. What is assigned may itself be an assignment. -/
def above : Strength → Strength
  | .assign => .assign
  | .range => .or
  | .or => .and
  | .and => .compare
  | .compare => .bitOr
  | .bitOr => .bitXor
  | .bitXor => .bitAnd
  | .bitAnd => .shift
  | .shift => .sum
  | .sum => .product
  | .product => .cast
  | .cast => .cast

end Strength

/-- The items among which a member stands. -/
inductive MemberPlace where
  | trait
  | implementation
  | foreign
  deriving DecidableEq, Repr

/-- The rules. -/
inductive Rule where
  | attributes
  | attributeContent
  | simplePath
  | path (style : PathStyle)
  | pathRest (style : PathStyle)
  | segment (style : PathStyle)
  | qualified (style : PathStyle)
  | type (sums : Bool)
  | argument
  | functionTypeItems (isFirst : Bool)
  | bound (place : BoundPlace)
  | bounds
  | sum (place : BoundPlace)
  | mixedBounds (place : BoundPlace) (sums : Bool)
  | binderItems
  | lifetimeBounds
  | parameter (anonymous : Bool)
  | generics
  | predicates
  | conditions
  | expression (literals : Bool)
  | climbing (literals : Bool) (base : Strength)
  | operators (literals : Bool) (base : Strength) (compared : Bool)
  | operand (literals : Bool)
  | atom (literals : Bool)
  | fieldValues
  | postfixes
  | conditional
  | closure (literals : Bool)
  | closureItems
  | blockLike
  | arms
  | pattern
  | alternatives
  | cases
  | limit
  | fieldPatterns
  | statements
  | visibility
  | item
  | itemBody (isPrivate : Bool)
  | functionItems (isFirst : Bool)
  | function
  | useTree (roots : Bool)
  | namedField
  | fieldType (anonymous : Bool)
  | tupleField
  | member (place : MemberPlace)
  | memberBody (place : MemberPlace) (macros : Bool)
  | macroItem

/-- Two colons. -/
def twoColons : Lookahead := marks [':', ':']

/-- An arrow. -/
def arrow : Lookahead := marks ['-', '>']

/-- One of two phrases, by whether an angle that comes next opens parameters rather than a type. The
angle stands behind trees that pass the first tests. -/
def ifParameters (before : Lookahead) (yes no : Phrase Rule) : Phrase Rule :=
  let way (tests : Lookahead) : Lookahead × Phrase Rule := (before ++ Tree.isMark '<' :: tests, yes)
  let named (c : Char) : Lookahead × Phrase Rule := way [Tree.isParameter, Tree.isMark c]
  .firstOf [way [Tree.isMark '>'], way [Tree.isMark '#'], way [Tree.isWord "const"], named '>',
    named ',', (before ++ Tree.isMark '<' :: Tree.isParameter :: twoColons, no), named ':',
    named '='] no

/-- A group between any delimiters. -/
def someGroup : Phrase Rule :=
  .firstOf [([Tree.isGroup .parenthesis], .anyGroup .parenthesis),
    ([Tree.isGroup .bracket], .anyGroup .bracket)] (.anyGroup .brace)

/-- Arguments between angles. -/
def angledArguments : Phrase Rule := .all [.mark '<', .arguments (.rule .argument), .mark '>']

/-- The result of a function, if it names one. -/
def resultPhrase (sums : Bool) : Phrase Rule :=
  .optional arrow (.all [.sign "->", .rule (.type sums)])

/-- Statements between braces. -/
def block : Phrase Rule := .within .brace (.rule .statements)

/-- Attributes of what they stand in. -/
def innerAttributes : Phrase Rule :=
  .many [Tree.isMark '#', Tree.isMark '!']
    (.all [.mark '#', .mark '!', .within .bracket (.rule .attributeContent)])

/-- Statements between braces behind attributes. -/
def attributedBlock : Phrase Rule := .within .brace (.all [innerAttributes, .rule .statements])

/-- Are the trees a path without arguments? -/
def isPlainPath (ts : List Tree) : Bool := ts.all fun t ↦ t.isAnyWord || t.isMark ':'

/-- The trees outside of angles, of which so many are open. -/
def outsideAngles : Nat → List Tree → List Tree
  | _, [] => []
  | depth, .mark '-' _ :: .mark '>' _ :: ts =>
    if depth = 0 then .mark '-' true :: .mark '>' false :: outsideAngles 0 ts
    else outsideAngles depth ts
  | depth, .mark '<' _ :: ts => outsideAngles (depth + 1) ts
  | depth, .mark '>' _ :: ts => outsideAngles (depth - 1) ts
  | 0, t :: ts => t :: outsideAngles 0 ts
  | depth, _ :: ts => outsideAngles depth ts

end VersionedStore.Declaration
