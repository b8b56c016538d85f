import VersionedStore.Declaration.Grammar.Rule

/-!
# Patterns

What the rules for patterns say.
-/

namespace VersionedStore.Declaration

open Phrase
open VersionedStore.Declaration.Tree (isGroup isLiteral isMark isName isNameOr isNumber isWord
  isWordOf)

/-- What bounds a range: a literal, a constant or a path. -/
def limitPhrase : Phrase Rule :=
  firstOf [([isLiteral], .tree isLiteral), ([isMark '-'], all [mark '-', .tree isNumber]),
    ([isWord "const"], all [word "const", attributedBlock]),
    ([isMark '<'], .rule (.qualified .value))] (.rule (.path .value))

/-- The upper bound of a range, unless the pattern ends. -/
def limitIfAny : Phrase Rule :=
  let isEnd : Tree → Bool
    | .word s => s == "if"
    | .mark c _ => "|=:,;".toList.contains c
    | _ => false
  firstOf [(twoColons, .rule .limit), ([isEnd], .nothing)] (unlessEnded (.rule .limit))

/-- The sign of a range and its upper bound. Three dots are written as the sign that includes the
bound. -/
def limitsPhrase : Phrase Rule :=
  let inclusive : List Tree := [.mark '.' true, .mark '.' true, .mark '=' false]
  firstOf [(marks ['.', '.', '='], all [sign "..=", .rule .limit]),
    (marks ['.', '.', '.'], all [instead (sign "...") inclusive, .rule .limit])]
    (all [sign "..", limitIfAny])

/-- A range behind its lower bound, if its sign comes next. -/
def maybeLimits : Phrase Rule := optional (marks ['.', '.']) limitsPhrase

/-- A pattern that begins with a path. -/
def pathPatternPhrase : Phrase Rule :=
  let rest : Phrase Rule :=
    firstOf [([isGroup .brace], .within .brace (.rule .fieldPatterns)),
      ([isGroup .parenthesis], .within .parenthesis (.items (.rule .alternatives)))] maybeLimits
  .choice [isMark '<'] (all [.rule (.qualified .value), rest])
    (.behind (.rule (.path .value)) isPlainPath
      (firstOf [(marks ['!', '='], rest), ([isMark '!'], all [mark '!', someGroup])] rest) rest)

/-- Are the trees a range without one of its bounds? -/
def isHalfOpen (ts : List Tree) : Bool :=
  let isSingle := !ts.any (isMark '|')
  match ts with
  | .mark '.' _ :: .mark '.' _ :: _ :: _ => isSingle
  | t :: u :: _ =>
    match ts.reverse with
    | .mark '.' _ :: .mark '.' _ :: _ =>
      isSingle && ts.length ≠ 2 && !u.isMark '@' && !t.isMark '&' &&
        !t.isWordOf ["box", "mut", "ref"]
    | _ => false
  | _ => false

/-- A pattern in a slice, where a range has both bounds. -/
def slicePatternPhrase : Phrase Rule := .behind (.rule .alternatives) isHalfOpen never .nothing

/-- One pattern. -/
def patternPhrase : Phrase Rule :=
  let path : Phrase Rule := pathPatternPhrase
  let named : Phrase Rule :=
    all [optionalWord "ref", optionalWord "mut", .tree (isNameOr ["self"]),
      optional [isMark '@'] (all [mark '@', .rule .pattern])]
  let limit : Phrase Rule := all [.rule .limit, maybeLimits]
  firstOf [
    (isName :: twoColons, path), ([isName, isMark '!'], path), ([isName, isGroup .brace], path),
    ([isName, isGroup .parenthesis], path), (isName :: marks ['.', '.'], path),
    (isWord "self" :: twoColons, path), (twoColons, path), ([isMark '<'], path),
    ([isWordOf ["Self", "super", "crate"]], path),
    ([isWord "_"], word "_"),
    ([isWord "box"], .verbatim (all [word "box", .rule .pattern])),
    ([isLiteral], limit), ([isMark '-'], limit), ([isWord "const"], limit),
    ([isNameOr ["ref", "mut", "self"]], named),
    ([isMark '&'], all [mark '&', optionalWord "mut", .rule .pattern]),
    ([isGroup .parenthesis], .within .parenthesis (.items (.rule .alternatives))),
    ([isGroup .bracket], .within .bracket (.items slicePatternPhrase)),
    (marks ['.', '.', '.'], never),
    (marks ['.', '.', '='], all [sign "..=", .rule .limit]),
    (marks ['.', '.'], all [sign "..", limitIfAny])] never

/-- Patterns with bars between; one may stand before them. -/
def alternativesPhrase : Phrase Rule :=
  all [optional [isMark '|'] (mark '|'), .rule .pattern, .rule .cases]

/-- Further patterns behind a bar. -/
def casesPhrase : Phrase Rule :=
  firstOf [(marks ['|', '|'], .nothing), (marks ['|', '='], .nothing),
    ([isMark '|'], all [mark '|', .rule .pattern, .rule .cases])] .nothing

/-- The fields of a struct pattern, which end with two dots for the others. -/
def fieldPatternsPhrase : Phrase Rule :=
  let bound : Phrase Rule := all [optionalWord "ref", optionalWord "mut", .tree isName]
  let matched (isMember : Tree → Bool) : Phrase Rule :=
    all [.tree isMember, mark ':', .rule .alternatives]
  let field : Phrase Rule :=
    firstOf [([isWord "box"], .verbatim (all [word "box", bound])),
      ([isWordOf ["ref", "mut"]], bound), ([Tree.isIndex], matched Tree.isIndex),
      ([isName, isMark ':'], matched isName)] (.tree isName)
  unlessEnded <| all [.rule .attributes,
    .choice (marks ['.', '.']) (sign "..") (all [field, more (.rule .fieldPatterns)])]

end VersionedStore.Declaration
