import VersionedStore.Declaration.Grammar.Bounds

/-!
# Items

What the rules for items and their members say.
-/

namespace VersionedStore.Declaration

open Phrase
open VersionedStore.Declaration.Tree (isAnyWord isGroup isLifetime isMark isName isNameOr isString
  isWord isWordOf)

/-- Who may use a declaration. A group that holds no scope is not part of it. -/
def visibilityPhrase : Phrase Rule :=
  let isScope : Tree → Bool
    | .group .parenthesis [t] => t.isWordOf ["crate", "self", "super"]
    | _ => false
  let isPath : Tree → Bool
    | .group .parenthesis (t :: _) => t.isWord "in"
    | _ => false
  firstOf [([isWord "pub", isScope], all [word "pub", anyGroup .parenthesis]),
    ([isWord "pub", isPath],
      all [word "pub", .within .parenthesis (all [word "in", .rule .simplePath])]),
    ([isWord "pub"], word "pub")] .nothing

/-- Fields with names between braces. -/
def namedFields : Phrase Rule := .within .brace (.items (.rule .namedField))

/-- The type of a field. One that has no name may hold further fields. -/
def fieldTypePhrase (anonymous : Bool) : Phrase Rule :=
  let type : Phrase Rule := .rule (.type true)
  let nested (kind : String) : Phrase Rule := .verbatim (all [word kind, namedFields])
  if anonymous then
    firstOf [([isWord "struct"], nested "struct"),
      ([isWord "union", isGroup .brace], nested "union")] type
  else type

/-- A field with a name, or with an underscore in place of one. -/
def namedFieldPhrase : Phrase Rule :=
  all [.rule .attributes, .rule .visibility,
    .choice [isWord "_"] (all [word "_", mark ':', .rule (.fieldType true)])
      (all [.tree isName, mark ':', .rule (.fieldType false)])]

/-- A field without a name. -/
def tupleFieldPhrase : Phrase Rule := all [.rule .attributes, .rule .visibility, .rule (.type true)]

/-- Fields without names in parentheses. -/
def tupleFields : Phrase Rule := .within .parenthesis (.items (.rule .tupleField))

/-- A name with generic parameters, behind a word. -/
def headPhrase (keyword : String) : Phrase Rule := all [word keyword, .tree isName, .rule .generics]

/-- A struct. -/
def structPhrase : Phrase Rule :=
  all [headPhrase "struct", .choice [isGroup .parenthesis]
    (all [tupleFields, .rule .conditions, mark ';'])
    (all [.rule .conditions, .choice [isMark ';'] (mark ';') namedFields])]

/-- A value behind an equals sign. -/
def initializer : Phrase Rule := all [mark '=', .rule (.expression true)]

/-- A variant of an enumeration. -/
def variantPhrase : Phrase Rule :=
  all [.rule .attributes, instead (.rule .visibility) [], .tree isName,
    firstOf [([isGroup .brace], namedFields), ([isGroup .parenthesis], tupleFields)] .nothing,
    optional [isMark '='] initializer]

/-- An enumeration. -/
def enumerationPhrase : Phrase Rule :=
  all [headPhrase "enum", .rule .conditions, .within .brace (.items variantPhrase)]

/-- The words that may stand before a function, and the function's own, in all their
combinations. -/
def functionWays (mayBeSafe : Bool) : List Lookahead :=
  let maybe (words : List String) (ways : List Lookahead) : List Lookahead :=
    words.map ([isWord ·]) ++ [[]] |>.flatMap fun front ↦ ways.map (front ++ ·)
  let linked : List Lookahead := [[isWord "extern", isString], [isWord "extern"], []]
  maybe ["const"] <| maybe ["async"] <|
    maybe (if mayBeSafe then ["unsafe", "safe"] else ["unsafe"]) <|
    linked.map (· ++ [isWord "fn"])

/-- A word for the linkage of functions. -/
def linkage : Phrase Rule := all [word "extern", optional [isString] (.tree isString)]

/-- A function, with its body or without it. -/
def functionPhrase : Phrase Rule :=
  all [optionalWord "const", optionalWord "async", optionalWord "unsafe", optionalWord "safe",
    optional [isWord "extern"] linkage, headPhrase "fn",
    .within .parenthesis (.rule (.functionItems true)), resultPhrase true, .rule .conditions,
    .choice [isMark ';'] (mark ';') attributedBlock]

/-- The parameters of a function. Only the first one may be the receiver, and dots stand for any
further ones. A type without a name has an underscore. -/
def functionItemsPhrase (isFirst : Bool) : Phrase Rule :=
  let type : Phrase Rule := .rule (.type true)
  let others : Phrase Rule := more (.rule (.functionItems false))
  let dots : Phrase Rule := all [sign "...", optional [isMark ','] (mark ',')]
  let receiver (p : Phrase Rule) : Phrase Rule := if isFirst then all [p, others] else never
  let typed : Phrase Rule := all [optionalWord "mut", word "self",
    optional [isMark ':'] (all [mark ':', type])]
  let borrowed : Phrase Rule := all [mark '&', optional [isLifetime] (.tree isLifetime),
    optionalWord "mut", word "self"]
  let pattern : Phrase Rule := all [.rule .pattern, mark ':',
    .choice (marks ['.', '.', '.']) dots (all [type, others])]
  unlessEnded <| all [.rule .attributes, firstOf [
    (marks ['.', '.', '.'], dots),
    (isWord "self" :: twoColons, pattern),
    ([isWord "self"], receiver typed), ([isWord "mut", isWord "self"], receiver typed),
    ([isMark '&', isWord "self"], receiver borrowed),
    ([isMark '&', isWord "mut", isWord "self"], receiver borrowed),
    ([isMark '&', isLifetime], receiver borrowed),
    ([isName, isMark '<'],
      all [instead .nothing [.word "_", .mark ':' false], type, others])] pattern]

/-- Another name for a type, with conditions before or behind what it stands for. -/
def aliasPhrase (before behind : Bool) : Phrase Rule :=
  let type : Phrase Rule := optional [isMark '='] (all [mark '=', .rule (.type true)])
  let conditions (wanted : Bool) : Phrase Rule := if wanted then .rule .conditions else .nothing
  all [headPhrase "type", colonAnd (.rule .bounds),
    .choice [isWord "where"] (all [conditions before, type,
      if before then .nothing else conditions behind]) (all [type, conditions behind]), mark ';']

/-- A constant. -/
def constantPhrase : Phrase Rule :=
  all [word "const", .tree (isNameOr ["_"]), .rule .generics, mark ':', .rule (.type true),
    optional [isMark '='] initializer, .rule .conditions, mark ';']

/-- A value that lasts; its type or the value itself may be missing. -/
def staticPhrase : Phrase Rule :=
  all [word "static", optionalWord "mut", .tree isName, .choice [isMark '='] initializer
    (all [mark ':', .rule (.type true), optional [isMark '='] initializer]), mark ';']

/-- What is brought into scope. Paths may start at the root where `roots` says so. -/
def useTreePhrase (roots : Bool) : Phrase Rule :=
  let isPart : Tree → Bool := isNameOr ["self", "super", "crate", "try"]
  let again : Phrase Rule := .rule (.useTree false)
  let branch : Phrase Rule :=
    if roots then .choice twoColons (all [sign "::", again]) (.rule (.useTree true)) else again
  firstOf [(isPart :: twoColons, all [.tree isPart, sign "::", again]),
    ([isPart, isWord "as"], all [.tree isPart, word "as", .tree (isNameOr ["_"])]),
    ([isPart], .tree isPart), ([isMark '*'], mark '*')] (.within .brace (.items branch))

/-- A declaration of what is brought into scope. -/
def usePhrase : Phrase Rule :=
  all [word "use", .choice twoColons (all [sign "::", .rule (.useTree false)])
    (.rule (.useTree true)), mark ';']

/-- Another library. -/
def libraryPhrase : Phrase Rule :=
  all [word "extern", word "crate", .tree (isNameOr ["self"]),
    optional [isWord "as"] (all [word "as", .tree (isNameOr ["_"])]), mark ';']

/-- What stands between braces: attributes, and as many of the phrase as there are. -/
def bodyOf (p : Phrase Rule) : Phrase Rule :=
  .within .brace (all [innerAttributes, .many [Tree.any] p])

/-- Declarations of what is linked. -/
def foreignPhrase : Phrase Rule :=
  all [optionalWord "unsafe", linkage, bodyOf (.rule (.member .foreign))]

/-- A module. -/
def modulePhrase : Phrase Rule :=
  all [optionalWord "unsafe", word "mod", .tree (isNameOr ["try"]),
    .choice [isMark ';'] (mark ';') (bodyOf (all [.rule .attributes, .rule .item]))]

/-- A trait. It is another name for bounds behind an equals sign, unless words stand before it. -/
def traitPhrase (mayBeAlias : Bool) : Phrase Rule :=
  let body : Phrase Rule :=
    all [colonAnd (.rule .bounds), .rule .conditions, bodyOf (.rule (.member .trait))]
  all [optionalWord "unsafe", optionalWord "auto", headPhrase "trait",
    if mayBeAlias then
      .choice [isMark '='] (all [mark '=', .rule .bounds, .rule .conditions, mark ';']) body
    else body]

/-- An implementation, which may be negative. -/
def implementationPhrase : Phrase Rule :=
  let type : Phrase Rule := .rule (.type true)
  all [optionalWord "default", optionalWord "unsafe", word "impl",
    ifParameters [] (.rule .generics) .nothing,
    firstOf [([isMark '?', isWord "const"], all [mark '?', word "const"])] (optionalWord "const"),
    firstOf [([isMark '!', isGroup .brace], .nothing), ([isMark '!'], mark '!')] .nothing, type,
    optional [isWord "for"] (all [word "for", type]), .rule .conditions,
    bodyOf (.rule (.member .implementation))]

/-- A macro. -/
def macroPhrase : Phrase Rule :=
  all [word "macro", .tree isName, optional [isGroup .parenthesis] (anyGroup .parenthesis),
    anyGroup .brace]

/-- A call of a macro, perhaps with a name, where a semicolon stands behind all but braces. -/
def macroItemPhrase (named : Bool) : Phrase Rule :=
  let isTarget : Tree → Bool := isNameOr ["try"]
  all [.rule .simplePath, mark '!', if named then optional [isTarget] (.tree isTarget) else .nothing,
    .choice [isGroup .brace] (anyGroup .brace) (all [someGroup, mark ';'])]

/-- The beginnings of calls of macros. -/
def macroWays (call : Phrase Rule) : List (Lookahead × Phrase Rule) :=
  [([isNameOr ["self", "super", "crate"]], call), (twoColons, call)]

/-- An item behind its attributes. -/
def itemPhrase : Phrase Rule :=
  .choice [isWord "pub"] (all [.rule .visibility, .rule (.itemBody false)]) (.rule (.itemBody true))

/-- An item behind its visibility; some have none. -/
def itemBodyPhrase (isPrivate : Bool) : Phrase Rule :=
  let onlyPrivate (p : Phrase Rule) : Phrase Rule := if isPrivate then p else never
  let foreign : Phrase Rule := onlyPrivate foreignPhrase
  let implementation : Phrase Rule := implementationPhrase
  let call : Phrase Rule := onlyPrivate (.rule .macroItem)
  firstOf ((functionWays false).map (·, .rule .function) ++ [
    ([isWord "extern", isWord "crate"], libraryPhrase), ([isWord "extern"], foreign),
    ([isWord "use"], usePhrase), ([isWord "static"], staticPhrase),
    ([isWord "const"], constantPhrase),
    ([isWord "unsafe", isWord "trait"], traitPhrase false),
    ([isWord "unsafe", isWord "auto", isWord "trait"], traitPhrase false),
    ([isWord "unsafe", isWord "impl"], implementation), ([isWord "unsafe", isWord "extern"], foreign),
    ([isWord "unsafe", isWord "mod"], modulePhrase), ([isWord "mod"], modulePhrase),
    ([isWord "type"], aliasPhrase true false), ([isWord "struct"], structPhrase),
    ([isWord "enum"], enumerationPhrase),
    ([isWord "union", isName], all [headPhrase "union", .rule .conditions, namedFields]),
    ([isWord "trait"], traitPhrase true), ([isWord "auto", isWord "trait"], traitPhrase false),
    ([isWord "impl"], implementation), ([isWord "default", isMark '!'], call),
    ([isWord "default"], implementation), ([isWord "macro"], macroPhrase)] ++ macroWays call) never

/-- A member of a trait, an implementation or a declaration of what is linked. Members with words
before them are no calls of macros. -/
def memberPhrase (place : MemberPlace) : Phrase Rule :=
  let plain : Phrase Rule := .rule (.memberBody place true)
  let marked : Phrase Rule := .rule (.memberBody place false)
  let default (other : Phrase Rule) : Phrase Rule :=
    match place with
    | .trait => .choice [isWord "default"] (all [word "default", marked]) other
    | .implementation =>
      firstOf [([isWord "default", isMark '!'], other),
        ([isWord "default"], all [word "default", marked])] other
    | .foreign => other
  all [.rule .attributes,
    .choice [isWord "pub"] (all [.rule .visibility, default marked]) (default plain)]

/-- A member behind the words before it. -/
def memberBodyPhrase (place : MemberPlace) (macros : Bool) : Phrase Rule :=
  let isForeign := place == .foreign
  let linked : Phrase Rule :=
    all [optionalWord "unsafe", optionalWord "safe", word "static", optionalWord "mut", .tree isName,
      mark ':', .rule (.type true), optional [isMark '='] initializer, mark ';']
  let valueWays : List (Lookahead × Phrase Rule) :=
    if isForeign then
      [([isWord "static"], linked), ([isWordOf ["unsafe", "safe"], isWord "static"], linked)]
    else [([isWord "const"], constantPhrase)]
  firstOf ((functionWays isForeign).map (·, .rule .function) ++ valueWays ++
    [([isWord "type"], aliasPhrase isForeign true)] ++
    if macros then macroWays (macroItemPhrase false) else []) never

end VersionedStore.Declaration
