import VersionedStore.Declaration.Grammar.Operators

/-!
# Expressions and attributes

What the rules for attributes and for expressions without operators say: literals, paths, calls of
macros, literals of structs, closures, blocks, loops and branches.
-/

namespace VersionedStore.Declaration

open Phrase
open VersionedStore.Declaration.Tree (isAnyWord isGroup isLifetime isLiteral isMark isName isNameOr
  isWord isWordOf)

/-- The attributes before a declaration. -/
def attributesPhrase : Phrase Rule :=
  .many [isMark '#'] (all [mark '#', .within .bracket (.rule .attributeContent)])

/-- The path of an attribute. -/
def attributePath : Phrase Rule :=
  .choice [isWord "unsafe"] (word "unsafe") (.rule .simplePath)

/-- The value of an attribute. It has no attributes itself. -/
def attributeValue : Phrase Rule :=
  .choice [isMark '#', isGroup .bracket] never (.rule (.expression true))

/-- A path that may have a group or a value. -/
def attributeContentPhrase : Phrase Rule :=
  all [attributePath,
    firstOf [([isGroup .parenthesis], anyGroup .parenthesis),
      ([isGroup .bracket], anyGroup .bracket), ([isGroup .brace], anyGroup .brace),
      (marks ['=', '='], .nothing), (marks ['=', '>'], .nothing),
      ([isMark '='], all [mark '=', attributeValue])] .nothing]

/-- An expression. -/
def expressionPhrase (literals : Bool) : Phrase Rule := .rule (.climbing literals .assign)

/-- The fields of a literal of a struct behind its path. -/
def literalFields (literals : Bool) : Phrase Rule :=
  if literals then optional [isGroup .brace] (.within .brace (.rule .fieldValues)) else .nothing

/-- A path as a value. A group with the marks of a macro may follow if the path has no arguments,
and fields may follow any path. -/
def valuePathPhrase (literals : Bool) : Phrase Rule :=
  let fields : Phrase Rule := literalFields literals
  .choice [isMark '<'] (all [.rule (.qualified .value), fields])
    (.behind (.rule (.path .value)) isPlainPath
      (firstOf [(marks ['!', '='], fields), ([isMark '!'], all [mark '!', someGroup])] fields)
      fields)

/-- The fields of a literal, which end with two dots and a value for the others. -/
def fieldValuesPhrase : Phrase Rule :=
  let value : Phrase Rule := .rule (.expression true)
  let field : Phrase Rule :=
    firstOf [([isName, isMark ':'], all [.tree isName, mark ':', value]), ([isName], .tree isName)]
      (all [.tree Tree.isIndex, mark ':', value])
  unlessEnded <| .choice (marks ['.', '.']) (all [sign "..", unlessEnded value])
    (all [.rule .attributes, field, more (.rule .fieldValues)])

/-- A condition with its branches. -/
def conditionalPhrase : Phrase Rule :=
  all [word "if", .rule (.expression false), block,
    optional [isWord "else"]
      (all [word "else", .choice [isWord "if"] (.rule .conditional) block])]

/-- A function without a name. -/
def closurePhrase (literals : Bool) : Phrase Rule :=
  all [optional [isWord "for"] (all [word "for", mark '<', .rule .binderItems, mark '>']),
    optionalWord "const", optionalWord "static", optionalWord "async", optionalWord "move", mark '|',
    .rule .closureItems, mark '|',
    .choice arrow (all [sign "->", .rule (.type true), block]) (.rule (.expression literals))]

/-- The parameters of a closure. -/
def closureItemsPhrase : Phrase Rule :=
  .choice [isMark '|'] .nothing (all [.rule .attributes, .rule .pattern,
    optional [isMark ':'] (all [mark ':', .rule (.type true)]),
    .choice [isMark '|'] .nothing (all [mark ',', .rule .closureItems])])

/-- Items between brackets: a list, or one item and how often it stands there. -/
def arrayPhrase : Phrase Rule :=
  let item : Phrase Rule := .rule (.expression true)
  .within .bracket <| unlessEnded <| all [item,
    firstOf [([isMark ';'], all [mark ';', item]), ([isMark ','], all [mark ',', .items item])]
      .nothing]

/-- What stands for a value because of braces, up to these: a branch, a loop or a block. -/
def blockLikePhrase : Phrase Rule :=
  let condition : Phrase Rule := .rule (.expression false)
  let loops : List (Lookahead × Phrase Rule) :=
    [([isWord "while"], all [word "while", condition, attributedBlock]),
      ([isWord "for"],
        all [word "for", .rule .alternatives, word "in", condition, attributedBlock]),
      ([isWord "loop"], all [word "loop", attributedBlock])]
  firstOf (loops ++ [
    ([isWord "if"], .rule .conditional),
    ([isWord "match"], all [word "match", condition,
      .within .brace (all [innerAttributes, .rule .arms])]),
    ([isWord "try"], all [word "try", block]),
    ([isWord "unsafe"], all [word "unsafe", attributedBlock]),
    ([isWord "const"], all [word "const", attributedBlock]),
    ([isLifetime], all [.tree isLifetime, mark ':', firstOf loops attributedBlock])]) attributedBlock

/-- The beginnings of what ends with its braces. -/
def blockLikeWays (p other : Phrase Rule) : List (Lookahead × Phrase Rule) :=
  [([isWordOf ["if", "while", "loop", "match", "unsafe"]], p),
    ([isWord "for", isMark '<'], ifParameters [isWord "for"] other p), ([isWord "for"], p),
    ([isWordOf ["try", "const"], isGroup .brace], p), ([isGroup .brace], p), ([isLifetime], p)]

/-- The arms of a branch on patterns. A comma stands between them unless one ends with its
braces. -/
def armsPhrase : Phrase Rule :=
  let others : Phrase Rule := more (.rule .arms)
  let further : Phrase Rule := all [.rule .postfixes, .rule (.operators true .assign false), others]
  let done : Phrase Rule := all [optional [isMark ','] (mark ','), .rule .arms]
  let closed : Phrase Rule :=
    all [.rule .blockLike,
      firstOf [(marks ['.', '.'], done), ([isMark '.'], further), ([isMark '?'], further)] done]
  let other : Phrase Rule := all [.rule (.expression true), others]
  unlessEnded <| all [.rule .attributes, .rule .alternatives,
    optional [isWord "if"] (all [word "if", .rule (.expression true)]), sign "=>", .rule .attributes,
    firstOf (blockLikeWays closed other) other]

/-- What leaves a block or a loop, perhaps with a value. A loop with a label is no such value. -/
def breakPhrase (literals : Bool) : Phrase Rule :=
  .choice [isWord "break", isLifetime, isMark ':'] never
    (all [word "break", optional [isLifetime] (.tree isLifetime),
      ifValue literals (.rule (.expression true))])

/-- An expression without operators. -/
def atomPhrase (literals : Bool) : Phrase Rule :=
  let value : Phrase Rule := .rule (.expression true)
  let path : Phrase Rule := valuePathPhrase literals
  let closure : Phrase Rule := .rule (.closure literals)
  let isPathStart : Tree → Bool := isNameOr ["self", "Self", "super", "crate"]
  firstOf [
    ([Tree.isLiteral], .tree Tree.isLiteral),
    ([isWord "async", isGroup .brace], all [word "async", block]),
    ([isWord "async", isWord "move", isGroup .brace], all [word "async", word "move", block]),
    ([isWordOf ["try", "const"], isGroup .brace], .rule .blockLike),
    ([isMark '|'], closure),
    ([isWordOf ["move", "const", "static"]], closure),
    ([isWord "async", isMark '|'], closure),
    ([isWord "async", isWord "move"], closure),
    ([isWord "for", isMark '<'], ifParameters [isWord "for"] closure (.rule .blockLike)),
    ([isWord "builtin", isMark '#'], .verbatim (all [word "builtin", mark '#', .tree isName,
      anyGroup .parenthesis])),
    ([isPathStart], path), (twoColons, path), ([isMark '<'], path),
    ([isWord "try", isMark '!'], path), (isWord "try" :: twoColons, path),
    ([isGroup .parenthesis], .within .parenthesis (.items value)),
    ([isWord "break"], breakPhrase literals),
    ([isWord "continue"], all [word "continue", optional [isLifetime] (.tree isLifetime)]),
    ([isWordOf ["return", "yield"]], all [.tree isAnyWord, ifValue true value]),
    ([isWord "become"], .verbatim (all [word "become", value])),
    ([isGroup .bracket], arrayPhrase),
    ([isWord "let"], all [word "let", .rule .alternatives, mark '=',
      .rule (.climbing literals .compare)]),
    ([isWordOf ["if", "while", "for", "loop", "match", "unsafe"]], .rule .blockLike),
    ([isGroup .brace], .rule .blockLike), ([isLifetime], .rule .blockLike),
    ([isWord "_"], word "_")] never

end VersionedStore.Declaration
