import VersionedStore.Declaration.Grammar.Types

/-!
# Bounds and parameters

What the rules for bounds, generic parameters and conditions say. A colon or a word with nothing
behind it is not written.
-/

namespace VersionedStore.Declaration

open Phrase
open VersionedStore.Declaration.Tree (isAnyWord isGroup isLifetime isMark isName isNameOr isWord)

/-- What a bound captures: lifetimes and names between angles. -/
def capturePhrase : Phrase Rule :=
  all [word "use", mark '<',
    .arguments (.choice [isLifetime] (.tree isLifetime) (.tree (isNameOr ["Self"]))), mark '>']

/-- The parameters that a bound quantifies over. -/
def binderPhrase : Phrase Rule := all [word "for", mark '<', .rule .binderItems, mark '>']

/-- Those parameters between the angles. -/
def binderItemsPhrase : Phrase Rule :=
  .choice [isMark '>'] .nothing (all [.rule (.parameter false),
    .choice [isMark '>'] .nothing (all [mark ',', .rule .binderItems])])

/-- The trees without angles that hold nothing before a group. -/
def withoutEmptyAngles : List Tree → List Tree
  | .mark ':' _ :: .mark ':' _ :: .mark '<' _ :: .mark '>' _ :: .group d content :: ts
  | .mark '<' _ :: .mark '>' _ :: .group d content :: ts => .group d content :: ts
  | t :: ts => t :: withoutEmptyAngles ts
  | [] => []

/-- A path that is a bound; parentheses with a result may follow in place of other arguments. -/
def boundPathPhrase : Phrase Rule :=
  let isBare (ts : List Tree) : Bool :=
    match ts.reverse with
    | .mark '>' _ :: .mark '<' _ :: _ => true
    | t :: _ => t.isAnyWord
    | [] => false
  let call : Phrase Rule :=
    all [.within .parenthesis (.items (.rule (.type true))), resultPhrase false]
  .rewritten (.behind (.rule (.path .type)) isBare
    (firstOf [([isGroup .parenthesis], call),
      (twoColons ++ [isGroup .parenthesis], all [instead (sign "::") [], call])] .nothing)
    .nothing) withoutEmptyAngles

/-- A trait with its modifiers. A question mark does not go with a binder, and a constant trait is
written as it stands. -/
def traitBoundPhrase (place : BoundPlace) : Phrase Rule :=
  let constantOr (p : Phrase Rule) : Phrase Rule :=
    match place with
    | .object => p
    | .opaqueType | .parameter =>
      firstOf [([isGroup .bracket], .verbatim (all [.within .bracket (word "const"), p])),
        ([isWord "const"], .verbatim (all [word "const", p]))] p
  .choice [isWord "for"] (all [binderPhrase, constantOr boundPathPhrase])
    (constantOr (all [optional [isMark '?'] (mark '?'), boundPathPhrase]))

/-- A bound: a lifetime, what it captures, or a trait, which may stand in parentheses. -/
def boundPhrase (place : BoundPlace) : Phrase Rule :=
  firstOf [([isLifetime], .tree isLifetime),
    ([isWord "use"], if place = .opaqueType then capturePhrase else never),
    ([isGroup .parenthesis], .within .parenthesis (traitBoundPhrase place))]
    (traitBoundPhrase place)

/-- May the tree begin a bound? -/
def startsBound (place : BoundPlace) : Tree → Bool
  | .word _ | .lifetime _ => true
  | .group d _ => d == .parenthesis || (d == .bracket && place != .object)
  | .mark c _ => c == '?'
  | .literal .. => false

/-- The bounds behind a first one: a plus sign before each, and one more may follow. -/
def sumPhrase (place : BoundPlace) : Phrase Rule :=
  let next : Phrase Rule :=
    all [.rule (.bound place), optional [isMark '+'] (.rule (.sum place))]
  all [mark '+', firstOf [(twoColons, next), ([startsBound place], next)] .nothing]

/-- The bounds of a type without a name, of which one must be a trait. -/
def mixedBoundsPhrase (place : BoundPlace) (sums : Bool) : Phrase Rule :=
  let again : Phrase Rule := if sums then all [mark '+', .rule (.mixedBounds place true)] else never
  firstOf [([isLifetime], all [.tree isLifetime, again]),
    ([isWord "use"], if place = .opaqueType then all [capturePhrase, again] else never)]
    (all [.rule (.bound place),
      if sums then optional [isMark '+'] (.rule (.sum place)) else .nothing])

/-- Any number of bounds; a plus sign may end them. -/
def boundsPhrase : Phrase Rule :=
  let next : Phrase Rule :=
    all [.rule (.bound .parameter), optional [isMark '+'] (all [mark '+', .rule .bounds])]
  let starts (t : Tree) : Bool := startsBound .parameter t && !t.isWord "where"
  firstOf [(twoColons, next), ([starts], next)] .nothing

/-- The lifetimes that a lifetime outlives. -/
def lifetimeBoundsPhrase : Phrase Rule :=
  optional [isLifetime] (all [.tree isLifetime,
    optional [isMark '+'] (all [mark '+', .rule .lifetimeBounds])])

/-- A phrase behind a colon, which is not written if nothing follows. -/
def colonAnd (p : Phrase Rule) : Phrase Rule :=
  let starts (t : Tree) : Bool := startsBound .parameter t && !t.isWord "where"
  firstOf [(isMark ':' :: twoColons, all [mark ':', p]), ([isMark ':', starts], all [mark ':', p]),
    ([isMark ':'], instead (mark ':') [])] .nothing

/-- A generic parameter. One without a name may stand where `anonymous` ones may. -/
def parameterPhrase (anonymous : Bool) : Phrase Rule :=
  let type : Phrase Rule := .rule (.type true)
  let fallback (p : Phrase Rule) : Phrase Rule := optional [isMark '='] (all [mark '=', p])
  all [.rule .attributes, firstOf [
    ([isLifetime], all [.tree isLifetime, colonAnd (.rule .lifetimeBounds)]),
    ([isWord "const"], all [word "const", .tree isName, mark ':', type,
      fallback (firstOf constantWays (.tree isName))]),
    ([isWord "_"], if anonymous then word "_" else never)]
    (all [.tree isName, colonAnd (.rule .bounds), fallback type])]

/-- Generic parameters between angles, if any; lifetimes come first. -/
def genericsPhrase : Phrase Rule :=
  firstOf [([isMark '<', isMark '>'], instead (all [mark '<', mark '>']) []),
    ([isMark '<'], all [mark '<', .arguments (.rule (.parameter true)), mark '>'])] .nothing

/-- A condition on a type or a lifetime. -/
def predicatePhrase : Phrase Rule :=
  .choice [isLifetime, isMark ':'] (all [.tree isLifetime, mark ':', .rule .lifetimeBounds])
    (all [optional [isWord "for"] binderPhrase, .rule (.type true), mark ':', .rule .bounds])

/-- Does the tree end conditions? -/
def endsPredicates : Tree → Bool
  | .group d _ => d == .brace
  | .mark c _ => c == ',' || c == ';' || c == ':' || c == '='
  | _ => false

/-- Conditions with commas between, up to a body or an end. -/
def predicatesPhrase : Phrase Rule :=
  let next : Phrase Rule :=
    all [predicatePhrase, optional [isMark ','] (all [mark ',', .rule .predicates])]
  firstOf [(twoColons, next), ([endsPredicates], .nothing), ([Tree.any], next)] .nothing

/-- Conditions behind their word, if it comes next. Without any it is not written, and parameters do
not stand there. -/
def conditionsPhrase : Phrase Rule :=
  let full : Phrase Rule := all [word "where", .rule .predicates]
  firstOf [(isWord "where" :: twoColons, full),
    ([isWord "where", endsPredicates], instead (word "where") []),
    ([isWord "where", isMark '<'], ifParameters [isWord "where"] never full),
    ([isWord "where", Tree.any], full), ([isWord "where"], instead (word "where") [])] .nothing

end VersionedStore.Declaration
