import VersionedStore.Log.Entry
import VersionedStore.Log.Pattern
import VersionedStore.Text.Alphanumeric
import VersionedStore.Text.Blank

/-!
# Log filters

A filter is a list of directives, each with the beginning of a target, perhaps the name of a value
that entries have, and the least level that passes there. Of the directives that fit an entry the
most particular one decides.
-/

namespace VersionedStore.Log

/-- The least level that passes for targets with a beginning, among entries with a value of that
name if there is one; nothing passes without a level. -/
structure Directive where
  target : String
  value : Option String
  least : Option Level
  deriving DecidableEq, Repr

/-- Directives in the order in which they are given. -/
abbrev Filter := List Directive

namespace Filter

/-- What a number says about levels. -/
def levelOfNumber? : Nat → Option (Option Level)
  | 0 => some none
  | 1 => some (some .error)
  | 2 => some (some .warn)
  | 3 => some (some .info)
  | 4 => some (some .debug)
  | 5 => some (some .trace)
  | _ => none

/-- What a word says about levels: the least one that passes, or that none does. -/
def levelOfWord? (cs : List Char) : Option (Option Level) :=
  let digits := if cs.head? = some '+' then cs.tail else cs
  if !digits.isEmpty && digits.all Char.isDigit then levelOfNumber? (Text.Decimal.value digits)
  else
    match Text.asciiSmall (String.ofList cs) with
    | "off" => some none
    | "error" => some (some .error)
    | "warn" => some (some .warn)
    | "info" => some (some .info)
    | "debug" => some (some .debug)
    | "trace" => some (some .trace)
    | _ => none

/-- A character that decides how a piece is read, and the one that is kept in its place. Without
blanks in front of the piece they are the same. -/
abbrev Cell := Char × Char

/-- The characters that are kept. -/
def kept (cells : List Cell) : List Char := cells.map Prod.snd

/-- The cells before the first one that is decided by one of these characters, and the others. -/
def upTo (stops : List Char) (cells : List Cell) : List Cell × List Cell :=
  cells.span fun cell ↦ !stops.contains cell.1

/-- The level behind a target, where an equals sign goes before it; without one everything passes.
The kept characters go on to the end of the piece. -/
def levelBehind? (ending : List Char) : List Cell → Option (Option Level)
  | [] => some (some .trace)
  | ('=', _) :: cells =>
    match kept cells ++ ending with
    | [] => some (some .trace)
    | word => levelOfWord? word
  | _ :: _ => none

/-- The name of a value, unless a pattern of the value goes with it; none if this is no value. -/
def valueName? (cs : List Char) : Option (Option String) :=
  if cs.isEmpty then none
  else
    let name := cs.takeWhile (· ≠ '=')
    match cs.dropWhile (· ≠ '=') with
    | [] => some (some (String.ofList name))
    | _ :: pattern => if isValuePattern (pattern.takeWhile (· ≠ '=')) then some none else none

/-- What a directive with brackets says, behind their opening. What it says about the inside of a
span, or about what a value is, is about no entry. -/
def bracketed? (target : String) (ending : List Char) (cells : List Cell) : Option Filter :=
  let (name, rest) := upTo [']', '\x7b'] cells
  match rest with
  | (']', _) :: rest => (levelBehind? ending rest).map fun _ ↦ []
  | _ :: rest =>
    let (value, rest) := upTo ['\x7d'] rest
    match rest with
    | _ :: (']', _) :: rest => do
      let value ← valueName? (kept value)
      let least ← levelBehind? ending rest
      some (if name.isEmpty && value.isSome then [⟨target, value, least⟩] else [])
    | _ => none
  | [] => none

/-- May a target begin with the character? -/
def isTargetStart (c : Char) : Bool :=
  c == '-' || c == ':' || c == '_' || Text.isAlphanumeric c

/-- What a piece says: a level for all targets, or a target that may have a level. Blanks around a
piece are passed over where it is read, but as many characters of its front are kept in their
place. -/
def directive? (piece : List Char) : Option Filter :=
  let core := Text.trimBoth piece
  let ending := piece.drop core.length
  match core.zip piece with
  | [] => none
  | ('[', _) :: cells => bracketed? "" ending cells
  | cells =>
    if !core.head?.any isTargetStart then none
    else
      let (name, rest) := upTo ['=', '['] cells
      let target := String.ofList (kept name)
      match rest with
      | [] =>
        match levelOfWord? piece with
        | some least => some [⟨"", none, least⟩]
        | none => some [⟨String.ofList piece, none, some .trace⟩]
      | ('[', _) :: rest => bracketed? target ending rest
      | rest => (levelBehind? ending rest).map fun least ↦ [⟨target, none, least⟩]

/-- The pieces of a text between commas. -/
def pieces : List Char → List (List Char)
  | [] => [[]]
  | c :: cs =>
    match pieces cs with
    | [] => [[]]
    | p :: ps => if c = ',' then [] :: p :: ps else (c :: p) :: ps

/-- The filter that a text spells; empty pieces say nothing. -/
def read? (s : String) : Option Filter :=
  (((pieces s.toList).filter fun p ↦ !p.isEmpty).mapM directive?).map List.flatten

/-- Does the entry have a value of this name? The message is one. -/
def hasValue (e : Entry) (name : String) : Bool := name == "message" || (e.field? name).isSome

/-- Does the directive fit an entry? -/
def fits (e : Entry) (d : Directive) : Bool :=
  d.target.toList.isPrefixOf e.target.toList && d.value.all (hasValue e)

/-- Is a directive at most as particular as another one? A longer target counts most, and then a
value; of two values the name that comes later counts. -/
def isAtMost (a b : Directive) : Bool :=
  if a.target.length ≠ b.target.length then a.target.length < b.target.length
  else
    match a.value, b.value with
    | none, _ => true
    | some _, none => false
    | some x, some y => !decide (y < x)

/-- The later of two directives, unless the first one is more particular. -/
def decisive (a : Option Directive) (b : Directive) : Option Directive :=
  match a with
  | none => some b
  | some a => if isAtMost a b then some b else some a

/-- The directive that decides about an entry. -/
def decidingFor? (e : Entry) (f : Filter) : Option Directive :=
  (f.filter (fits e)).foldl decisive none

/-- Does an entry pass? -/
def passes (f : Filter) (e : Entry) : Bool :=
  match (f.decidingFor? e).bind Directive.least with
  | some least => decide (least.rank ≤ e.level.rank)
  | none => false

end Filter

end VersionedStore.Log
