import VersionedStore.Declaration.Grammar
import VersionedStore.Declaration.Struct

/-!
# Reading items

A declaration is read as a struct with all its parts, or as some other item, which is checked
alone.
-/

namespace VersionedStore.Declaration

/-- What may carry an attribute. -/
inductive Item where
  | struct (s : Struct)
  | other
  deriving DecidableEq

/-- The attributes at the front of trees. -/
def attributes? : List Tree → Option (List Attribute × List Tree)
  | .mark '#' _ :: .group .bracket content :: rest => do
    let content ← Rule.attributeContent.whole? content
    let (as, rest) ← attributes? rest
    some (⟨content⟩ :: as, rest)
  | .mark '#' _ :: _ => none
  | ts => some ([], ts)

/-- The visibility at the front of trees, which may be empty. -/
def visibility? : List Tree → Option (List Tree × List Tree) := Rule.visibility.split?

/-- The trees behind a mark that a phrase takes; none if the mark is missing. -/
def behindMark? (c : Char) (p : Phrase Rule) : List Tree → Option (List Tree × List Tree)
  | .mark d j :: rest =>
    if d = c then Phrase.split? Rule.phrase p rest else some ([], .mark d j :: rest)
  | ts => some ([], ts)

/-- A generic parameter at the front of trees. -/
def parameter? (ts : List Tree) : Option (Parameter × List Tree) := do
  let (as, ts) ← attributes? ts
  match ts with
  | .lifetime name :: rest =>
    let (bounds, rest) ← behindMark? ':' (.rule .lifetimeBounds) rest
    some (.lifetime as name bounds, rest)
  | .word "const" :: rest =>
    let (name, rest) ← name? rest
    match rest with
    | .mark ':' _ :: rest =>
      let (type, rest) ← type? rest
      let (fallback, rest) ← behindMark? '=' (.firstOf constantWays (.tree Tree.isName)) rest
      some (.constant as name type fallback, rest)
    | _ => none
  | .word w :: rest =>
    if w = "_" then some (.type as "_" [] [], rest)
    else
      let (name, rest) ← name? (.word w :: rest)
      let (bounds, rest) ← behindMark? ':' (.rule .bounds) rest
      let (fallback, rest) ← behindMark? '=' (.rule (.type true)) rest
      some (.type as name bounds fallback, rest)
  | _ => none

/-- Generic parameters behind their opening angle. Each round takes one. -/
def parameters? : Nat → List Tree → Option (List (Parameter × Bool) × List Tree)
  | 0, _ => none
  | n + 1, ts =>
    match ts with
    | .mark '>' _ :: rest => some ([], rest)
    | ts => do
      let (p, rest) ← parameter? ts
      match rest with
      | .mark '>' _ :: rest => some ([(p, false)], rest)
      | .mark ',' _ :: rest =>
        let (ps, rest) ← parameters? n rest
        some ((p, true) :: ps, rest)
      | _ => none

/-- The generic parameters at the front of trees, if any. -/
def generics? : List Tree → Option (Generics × List Tree)
  | .mark '<' _ :: rest => do
    let (ps, rest) ← parameters? (rest.length + 1) rest
    some (⟨ps⟩, rest)
  | ts => some (⟨[]⟩, ts)

/-- The conditions on the parameters at the front of trees, with their word. -/
def constraints? : List Tree → Option (List Tree × List Tree) := Rule.conditions.split?

/-- A field of a tuple. -/
def tupleField? (ts : List Tree) : Option (Field × List Tree) := do
  let (as, ts) ← attributes? ts
  let (visibility, ts) ← visibility? ts
  let (type, ts) ← type? ts
  some (⟨as, visibility, type⟩, ts)

/-- A field with a name; one that has none is called by an underscore, and may hold further fields.
-/
def namedField? (ts : List Tree) : Option (NamedField × List Tree) := do
  let (as, ts) ← attributes? ts
  let (visibility, ts) ← visibility? ts
  let (name, ts) ← match ts with
    | .word "_" :: rest => some ("_", rest)
    | ts => name? ts
  match ts with
  | .mark ':' _ :: ts =>
    let (type, ts) ← (Rule.fieldType (name == "_")).split? ts
    some (⟨⟨as, visibility, type⟩, name⟩, ts)
  | _ => none

/-- All fields of a tuple, from the content of its group. -/
def tupleFields? (ts : List Tree) : Option (List Field) := separated none tupleField? ts.length ts

/-- All fields with names, from the content of their group. -/
def namedFields? (ts : List Tree) : Option (List NamedField) := separated none namedField? ts.length ts

/-- The conditions and the fields of a struct, behind its parameters. -/
def shape? (ts : List Tree) : Option (List Tree × Shape × List Tree) :=
  match ts with
  | .group .parenthesis content :: rest => do
    let fields ← tupleFields? content
    let (conditions, rest) ← constraints? rest
    match rest with
    | .mark ';' _ :: rest => some (conditions, .tuple fields, rest)
    | _ => none
  | ts => do
    let (conditions, rest) ← constraints? ts
    match rest with
    | .group .brace content :: rest => do
      let fields ← namedFields? content
      some (conditions, .named fields, rest)
    | .mark ';' _ :: rest => some (conditions, .unit, rest)
    | _ => none

/-- The struct that trees declare, all of them. -/
def Struct.read? (ts : List Tree) : Option Struct := do
  let (as, ts) ← attributes? ts
  let (visibility, ts) ← visibility? ts
  match ts with
  | .word "struct" :: ts =>
    let (name, ts) ← name? ts
    let (generics, ts) ← generics? ts
    let (conditions, shape, ts) ← shape? ts
    if ts.isEmpty then some ⟨as, visibility, name, generics, conditions, shape⟩ else none
  | _ => none

/-- The item that trees declare, all of them. -/
def Item.read? (ts : List Tree) : Option Item := do
  let (_, behind) ← attributes? ts
  let (_, rest) ← visibility? behind
  match rest with
  | .word "struct" :: _ => (Struct.read? ts).map .struct
  | _ => (Rule.item.whole? behind).map fun _ ↦ .other

end VersionedStore.Declaration
