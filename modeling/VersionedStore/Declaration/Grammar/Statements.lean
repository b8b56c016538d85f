import VersionedStore.Declaration.Grammar.Expressions

/-!
# Statements

What the rule for statements says. A semicolon stands behind an expression unless it is the last one
or ends with its braces.
-/

namespace VersionedStore.Declaration

open Phrase
open VersionedStore.Declaration.Tree (isGroup isMark isName isNameOr isSegment isWord isWordOf)

/-- A declaration of values by a pattern. -/
def localPhrase : Phrase Rule :=
  let endsInBraces (ts : List Tree) : Bool := ts.getLast?.any (isGroup .brace)
  all [word "let", .rule .pattern, optional [isMark ':'] (all [mark ':', .rule (.type true)]),
    optional [isMark '='] (all [mark '=', .behind (.rule (.expression true)) endsInBraces .nothing
      (optional [isWord "else"] (all [word "else", block]))]),
    mark ';']

/-- The beginnings of items among statements, but for calls of macros. -/
def itemWays : List Lookahead :=
  let followed (words next : List String) : Lookahead := [isWordOf words, isWordOf next]
  [[isWordOf ["pub", "crate", "extern", "use", "fn", "mod", "type", "struct", "enum", "trait", "impl",
      "macro"]],
    followed ["static"] ["mut"], [isWord "static", isName],
    [isWord "const", isWord "async", isWordOf ["unsafe", "extern", "fn"]],
    followed ["async"] ["unsafe", "extern", "fn"], [isWord "union", isName],
    followed ["auto"] ["trait"], followed ["default"] ["unsafe", "impl"]]

/-- What ends a statement that is an expression. A macro with braces needs no semicolon. -/
def terminator : Phrase Rule := unlessEnded (all [mark ';', .rule .statements])

/-- Are the trees a call of a macro with braces? -/
def isBraceCall (ts : List Tree) : Bool :=
  match ts.reverse with
  | .group .brace _ :: .mark '!' _ :: path => !path.isEmpty && isPlainPath path
  | _ => false

/-- A statement that begins with a path, and those behind it. -/
def pathStatement : Phrase Rule :=
  let others : Phrase Rule := .rule .statements
  let accesses : Phrase Rule :=
    all [.rule .postfixes, .rule (.operators true .assign false), terminator]
  let value : Phrase Rule := all [literalFields true, accesses]
  let isTarget : Tree → Bool := isNameOr ["try"]
  let call : Phrase Rule := all [mark '!', someGroup, accesses]
  let braced : Phrase Rule := all [mark '!', anyGroup .brace, others]
  let named (t : Phrase Rule) : Phrase Rule := all [mark '!', .tree isTarget, t, others]
  .behind (.rule (.path .value)) isPlainPath
    (firstOf [
      ([isMark '!', isTarget, isGroup .brace], named (anyGroup .brace)),
      ([isMark '!', isTarget], named (all [someGroup, mark ';'])),
      ([isMark '!', isGroup .brace] ++ marks ['.', '.'], braced),
      ([isMark '!', isGroup .brace, isMark '.'], call),
      ([isMark '!', isGroup .brace, isMark '?'], call),
      ([isMark '!', isGroup .brace], braced),
      (marks ['!', '='], value), ([isMark '!'], call)] value) value

/-- Statements up to the end. -/
def statementsPhrase : Phrase Rule :=
  let others : Phrase Rule := .rule .statements
  let item : Phrase Rule := all [.rule .item, others]
  let further : Phrase Rule :=
    all [.rule .postfixes, .rule (.operators true .assign false), terminator]
  let closed : Phrase Rule :=
    all [.rule .blockLike,
      firstOf [(marks ['.', '.'], others), ([isMark '.'], further), ([isMark '?'], further)] others]
  let value : Phrase Rule := .behind (.rule (.expression true)) isBraceCall others terminator
  unlessEnded <| .choice [isMark ';'] (all [mark ';', others]) <| all [.rule .attributes,
    firstOf ([
      ([isWord "let"], all [localPhrase, others]),
      ([isWord "builtin", isMark '#'], value),
      (isWord "crate" :: twoColons, pathStatement),
      ([isWord "unsafe", isGroup .brace], closed), ([isWord "unsafe"], item),
      ([isWord "const", isGroup .brace], closed)] ++ itemWays.map (·, item) ++
      [([isWord "const", isWordOf ["static", "async", "move"]], value),
        ([isWord "const", isMark '|'], value), ([isWord "const"], item)] ++
      blockLikeWays closed value ++ [([isSegment], pathStatement), (twoColons, pathStatement)])
      value]

end VersionedStore.Declaration
