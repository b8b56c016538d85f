import VersionedStore.Declaration.Grammar.Rule

/-!
# Operators

How operands, signs, operators and accesses make up an expression. An expression climbs from a
strength: it goes on with the operators that bind at least as tightly. Where braces may mean
something else, expressions do without literals of structs.
-/

namespace VersionedStore.Declaration

open Phrase
open VersionedStore.Declaration.Tree (isAnyWord isGroup isLifetime isLiteral isMark isName isWord
  isWordOf)

/-- The operators between two operands, longer spellings first. -/
def binaryOperators : List (String × Strength) :=
  [("&&", .and), ("||", .or), ("<<=", .assign), (">>=", .assign), ("<<", .shift), (">>", .shift),
    ("==", .compare), ("<=", .compare), ("!=", .compare), (">=", .compare), ("+=", .assign),
    ("-=", .assign), ("*=", .assign), ("/=", .assign), ("%=", .assign), ("^=", .assign),
    ("&=", .assign), ("|=", .assign), ("+", .sum), ("-", .sum), ("*", .product), ("/", .product),
    ("%", .product), ("^", .bitXor), ("&", .bitAnd), ("|", .bitOr), ("<", .compare), (">", .compare)]

/-- A phrase if what comes next may begin an expression; braces begin one if `braces` says so. -/
def ifValue (braces : Bool) (value : Phrase Rule) : Phrase Rule :=
  let unlessSigns (spelling : String) : Lookahead × Phrase Rule := (marks spelling.toList, .nothing)
  let starts : Tree → Bool
    | .word s => s != "as"
    | .lifetime _ | .literal .. => true
    | .group d _ => d != .brace || braces
    | .mark c _ => "!-*|&<#".toList.contains c
  firstOf (["!=", "-=", "->", "*=", "|=", "&=", "<=", "<<="].map unlessSigns ++
    [(marks ['.', '.'], value), (twoColons, value), ([starts], value)]) .nothing

/-- What may stand where a range has no end. -/
def endlessWays (literals : Bool) : List Lookahead :=
  ([",", ";", "?", "=>", "=", "+", "/", "%", "^", ">", "<=", "!=", "-=", "*=", "&=", "|=", "<<="].map
      fun spelling ↦ marks spelling.toList) ++
    [[isWord "as"]] ++ (if literals then [] else [[isGroup .brace]])

/-- The sign of a range and its end. Three dots are no such sign. -/
def rangeEnd (literals : Bool) : Phrase Rule :=
  let value : Phrase Rule := .rule (.climbing literals .or)
  firstOf [(marks ['.', '.', '.'], never), (marks ['.', '.', '='], all [sign "..=", value])]
    (all [sign "..",
      firstOf ((marks ['.', '.'], value) :: ([isMark '.'], .nothing) ::
        (endlessWays literals).map (·, .nothing)) (unlessEnded value)])

/-- An expression whose operators bind at least as tightly as `base`. A range ends it. -/
def climbingPhrase (literals : Bool) (base : Strength) : Phrase Rule :=
  .choice (marks ['.', '.']) (rangeEnd literals)
    (all [.rule (.operand literals), .rule (.operators literals base false)])

/-- The operators behind an operand. What compares does not follow another comparison. -/
def operatorsPhrase (literals : Bool) (base : Strength) (compared : Bool) : Phrase Rule :=
  let go (compared : Bool) : Phrase Rule := .rule (.operators literals base compared)
  let way (operator : String × Strength) : Lookahead × Phrase Rule :=
    (marks operator.1.toList,
      if operator.2.rank < base.rank then .nothing
      else if operator.2 = .compare ∧ compared then never
      else all [sign operator.1, .rule (.climbing literals operator.2.above),
        go (operator.2 == .compare)])
  firstOf (binaryOperators.map way ++
    [(marks ['=', '>'], .nothing),
      ([isMark '='], if base = .assign then
        all [mark '=', .rule (.climbing literals .assign), go false] else .nothing),
      (marks ['.', '.'], if base.rank ≤ Strength.range.rank then rangeEnd literals else .nothing),
      ([isWord "as"], all [word "as", .rule (.type false),
        firstOf [(marks ['.', '.'], go false), ([isMark '.'], never), ([isMark '?'], never),
          ([isGroup .bracket], never), ([isGroup .parenthesis], never)] (go false)])]) .nothing

/-- An operand with the signs before it and the accesses behind it. Attributes do not stand before a
range. -/
def operandPhrase (literals : Bool) : Phrase Rule :=
  let again : Phrase Rule := .choice (marks ['.', '.']) (rangeEnd literals) (.rule (.operand literals))
  let place (second : String) : Lookahead × Phrase Rule :=
    ([isWord "raw", isWord second], all [word "raw", word second])
  let signed : Phrase Rule :=
    firstOf [([isMark '&'], all [mark '&',
        firstOf [place "mut", place "const", ([isWord "mut"], word "mut")] .nothing, again]),
      ([isMark '*'], all [mark '*', again]), ([isMark '!'], all [mark '!', again]),
      ([isMark '-'], all [mark '-', again])]
      (all [.rule (.atom literals), .rule .postfixes])
  .choice [isMark '#']
    (all [.rule .attributes, .choice (marks ['.', '.']) never signed]) signed

/-- Does the text of a float stand for members, one for each part? In an open one the last part is
missing, since another member follows. -/
def isMemberFloat (isOpen : Bool) : Tree → Bool
  | .literal .float spelling =>
    let parts := pointedParts spelling.toList
    if isOpen then parts.getLast?.any List.isEmpty && parts.dropLast.all isIndexText
    else parts.all isIndexText
  | _ => false

/-- What may follow an operand: a question mark, arguments, an index or a member. -/
def postfixesPhrase : Phrase Rule :=
  let again : Phrase Rule := .rule .postfixes
  let isFloat : Tree → Bool
    | .literal kind _ => kind == .float
    | _ => false
  let arguments : Phrase Rule := .within .parenthesis (.items (.rule (.expression true)))
  let named : Phrase Rule :=
    firstOf [([isWord "await"], word "await"), ([Tree.isIndex], .tree Tree.isIndex)]
      (all [.tree isName, optional twoColons (all [sign "::", angledArguments, arguments])])
  let member : Phrase Rule :=
    firstOf [([isMemberFloat true], all [.tree (isMemberFloat true), named]),
      ([isFloat], .tree (isMemberFloat false))] named
  firstOf [([isMark '?'], all [mark '?', again]),
    ([isGroup .parenthesis], all [arguments, again]),
    ([isGroup .bracket], all [.within .bracket (.rule (.expression true)), again]),
    (marks ['.', '.'], .nothing), ([isMark '.'], all [mark '.', member, again])] .nothing

end VersionedStore.Declaration
