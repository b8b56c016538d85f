import VersionedStore.Declaration.Grammar.Rule

/-!
# Paths and types

What the rules for paths and types say. A type that may be a sum goes on behind a plus sign with
further bounds.
-/

namespace VersionedStore.Declaration

open Phrase
open VersionedStore.Declaration.Tree (isAnyWord isGroup isLifetime isLiteral isMark isName isNameOr
  isNumber isSegment isString isWord isWordOf)

/-- A path without arguments. -/
def simplePathPhrase : Phrase Rule :=
  all [optional twoColons (sign "::"), .tree isSegment,
    .many twoColons (all [sign "::", .tree isSegment])]

/-- A path that may start at the root. -/
def pathPhrase (style : PathStyle) : Phrase Rule :=
  all [optional twoColons (sign "::"), .rule (.segment style), .rule (.pathRest style)]

/-- Further segments of a path, unless a group in parentheses is next. -/
def pathRestPhrase (style : PathStyle) : Phrase Rule :=
  firstOf [(twoColons ++ [isGroup .parenthesis], .nothing),
    (twoColons, all [sign "::", .rule (.segment style), .rule (.pathRest style)])] .nothing

/-- A segment of a path with its arguments. -/
def segmentPhrase (style : PathStyle) : Phrase Rule :=
  let atOnce : List (Lookahead × Phrase Rule) :=
    match style with
    | .value => []
    | .type => [(marks ['<', '='], .nothing), (marks ['<', '<', '='], .nothing),
        ([isMark '<'], angledArguments)]
  .choice [isWordOf ["super", "self", "crate", "try"]] (.tree isAnyWord)
    (all [.tree (isNameOr ["Self"]),
      firstOf ((twoColons ++ [isMark '<'], all [sign "::", angledArguments]) :: atOnce) .nothing])

/-- A path that begins with a type between angles. -/
def qualifiedPhrase (style : PathStyle) : Phrase Rule :=
  all [mark '<', .rule (.type true),
    optional [isWord "as"] (all [word "as", .rule (.path .type)]), mark '>', sign "::",
    .rule (.segment style), .many twoColons (all [sign "::", .rule (.segment style)])]

/-- Are the trees a segment on its own, with or without arguments? -/
def isSingleSegment (ts : List Tree) : Bool :=
  match outsideAngles 0 ts with
  | [t] | [t, .mark ':' _, .mark ':' _] => t.isSegment
  | _ => false

/-- Are the trees a group that holds a bound: a path, which may have a binder before it, or a group
with a question mark? -/
def isGroupedBound : List Tree → Bool
  | [.group .parenthesis [.group .parenthesis (t :: _)]] => t.isMark '?'
  | [.group .parenthesis (t :: ts)] =>
    (t.isSegment || t.isMark ':' || t.isWord "for") && isPlainPath (outsideAngles 0 (t :: ts))
  | _ => false

/-- The first bound of a sum, in one pair of parentheses only. -/
def singlyGrouped : List Tree → List Tree
  | .group .parenthesis [.group .parenthesis content] :: .mark '+' joint :: ts =>
    .group .parenthesis content :: .mark '+' joint :: ts
  | ts => ts

/-- A group in parentheses: no type, one type, or several. A bound may stand there behind a question
mark, and a bound may be the first of a sum. -/
def parenthesizedPhrase (sums : Bool) : Phrase Rule :=
  let holds (test : List Tree → Bool) : Tree → Bool
    | .group .parenthesis content => test content
    | _ => false
  let further : Phrase Rule := .many [isMark '+'] (all [mark '+', .rule (.bound .object)])
  firstOf [
    ([holds List.isEmpty], anyGroup .parenthesis),
    ([holds fun content ↦ content.head?.any isLifetime],
      .within .parenthesis (.rule (.mixedBounds .object true))),
    ([holds fun content ↦ content.head?.any (isMark '?')],
      all [.within .parenthesis (.rule (.bound .object)), further])]
    (.rewritten (.behind (.within .parenthesis (.items (.rule (.type true)))) isGroupedBound
      (if sums then further else .nothing) .nothing) singlyGrouped)

/-- A slice, or an array with its length. -/
def bracketedPhrase : Phrase Rule :=
  .within .bracket <| all [.rule (.type true),
    optional [isMark ';'] (all [mark ';', .rule (.expression true)])]

/-- The type of a function. -/
def functionTypePhrase : Phrase Rule :=
  all [optionalWord "unsafe",
    optional [isWord "extern"] (all [word "extern", optional [isString] (.tree isString)]),
    word "fn", .within .parenthesis (.rule (.functionTypeItems true)), resultPhrase false]

/-- The parameters of a function type, which may be named. Only the first one may be called `self`,
and dots stand for any further ones. -/
def functionTypeItemsPhrase (isFirst : Bool) : Phrase Rule :=
  let type : Phrase Rule := .rule (.type true)
  let others : Phrase Rule := more (.rule (.functionTypeItems false))
  let rest : Phrase Rule := all [sign "...", optional [isMark ','] (mark ',')]
  let isLabel : Tree → Bool := isNameOr (if isFirst then ["_", "self"] else ["_"])
  let changing : Lookahead := [isWord "mut", isWord "self"]
  let self : List (Lookahead × Phrase Rule) :=
    if isFirst then
      [(changing ++ twoColons, never),
        (changing ++ [isMark ':'], all [.verbatim (all [taking changing, mark ':', type]), others]),
        (changing, all [taking changing, others])]
    else []
  unlessEnded <| all [.rule .attributes,
    firstOf ([(marks ['.', '.', '.'], rest),
        ([isNameOr ["_"], isMark ':'] ++ marks ['.', '.', '.'],
          all [.tree (isNameOr ["_"]), mark ':', rest])] ++ self ++
      [(isLabel :: twoColons, all [type, others]),
        ([isLabel, isMark ':'], all [.tree isLabel, mark ':', type, others])])
      (all [type, others])]

/-- A type. What a binder says does not reach into the call of a macro, and is not written there. -/
def typePhrase (sums : Bool) : Phrase Rule :=
  let isFunction : Tree → Bool := isWordOf ["fn", "unsafe", "extern"]
  let further : Phrase Rule :=
    if sums then optional [isMark '+'] (.rule (.sum .object)) else .nothing
  let path : Phrase Rule :=
    .behind (.rule (.path .type)) isPlainPath
      (firstOf [(marks ['!', '='], further), ([isMark '!'], all [mark '!', someGroup])] further)
      further
  let binder : Phrase Rule := all [word "for", mark '<', .rule .binderItems, mark '>']
  let unboundCall (ts : List Tree) : List Tree :=
    match (outsideAngles 0 ts).reverse with
    | .group .. :: .mark '!' _ :: path =>
      if isPlainPath path then (outsideAngles 0 ts).drop 1 else ts
    | _ => ts
  firstOf [
    ([isWord "for"], .rewritten (all [binder, .choice [isFunction] functionTypePhrase
      (.choice [isSegment] path never)]) unboundCall),
    ([isGroup .parenthesis], parenthesizedPhrase sums),
    ([isFunction], functionTypePhrase),
    ([isMark '<'], .rule (.qualified .type)),
    (twoColons, path),
    ([isSegment], path),
    ([isWord "dyn", isMark '*'],
      .verbatim (all [word "dyn", mark '*', .rule (.mixedBounds .object sums)])),
    ([isWord "dyn"], all [word "dyn", .rule (.mixedBounds .object sums)]),
    ([isGroup .bracket], bracketedPhrase),
    ([isMark '*'], all [mark '*', .tree (isWordOf ["const", "mut"]), .rule (.type false)]),
    ([isMark '&'], all [mark '&', optional [isLifetime] (.tree isLifetime), optionalWord "mut",
      .rule (.type false)]),
    ([isMark '!'], mark '!'),
    ([isWord "impl"], all [word "impl", .rule (.mixedBounds .opaqueType sums)]),
    ([isWord "_"], word "_"),
    ([isLifetime], .rule (.mixedBounds .object true))] never

/-- The value of an argument that is an expression: a literal or a block. -/
def constantWays : List (Lookahead × Phrase Rule) :=
  [([isLiteral], .tree isLiteral), ([isMark '-', isNumber], all [mark '-', .tree isNumber]),
    ([isGroup .brace], attributedBlock)]

/-- An argument between angles: a lifetime, an expression, a type, or what an associated item is or
must be. -/
def argumentPhrase : Phrase Rule :=
  let type : Phrase Rule := .rule (.type true)
  let single : Phrase Rule :=
    firstOf [([isMark '='], all [mark '=', firstOf constantWays type]),
      ([isMark ':'], all [mark ':', .rule .bounds])] .nothing
  firstOf (([isLifetime, isMark '+'], type) :: ([isLifetime], .tree isLifetime) :: constantWays)
    (.behind type isSingleSegment single .nothing)

end VersionedStore.Declaration
