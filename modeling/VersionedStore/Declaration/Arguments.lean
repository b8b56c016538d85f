import VersionedStore.Declaration.Item
import VersionedStore.Declaration.Literal
import VersionedStore.Declaration.Refusal
import VersionedStore.Text.Blank

/-!
# Arguments of attributes

Keys with their values, with commas between. All arguments of a model are read before they are
checked against each other, and so are those of an identifier.
-/

namespace VersionedStore.Declaration

/-- The answer to trees that do not read. -/
def orMalformed {α : Type} (a : Option α) : Except Refusal α :=
  match a with
  | some a => .ok a
  | none => .error .malformed

/-- The trees behind the attributes at their front. -/
def withoutAttributes : List Tree → List Tree
  | .mark '#' _ :: .group .bracket _ :: ts => withoutAttributes ts
  | ts => ts

/-- The boolean that an expression is, behind its attributes. -/
def boolean (key : String) (expression : List Tree) : Except Refusal Bool :=
  match withoutAttributes expression with
  | [.word "true"] => .ok true
  | [.word "false"] => .ok false
  | _ => .error (.notBoolean key)

/-- An argument of a model. -/
inductive ModelArgument where
  | oid (type : List Tree)
  | tag (text : String)
  | debug (shown : Bool)
  deriving DecidableEq

/-- The value of an argument of a model, by its key. -/
def ModelArgument.ofKey (key : String) (ts : List Tree) :
    Except Refusal (ModelArgument × List Tree) :=
  match key with
  | "oid" => do
    let (type, rest) ← orMalformed (type? ts)
    .ok (.oid type, rest)
  | "tag" =>
    match ts with
    | .literal .string spelling :: rest => do
      let text ← orMalformed (stringValue? spelling)
      .ok (.tag text, rest)
    | _ => .error .malformed
  | "debug" => do
    let (value, rest) ← orMalformed (expression? ts)
    let shown ← boolean "debug" value
    .ok (.debug shown, rest)
  | _ => .error .unknownModelKey

/-- An argument of a model at the front of trees. -/
def ModelArgument.read (ts : List Tree) : Except Refusal (ModelArgument × List Tree) := do
  let (key, rest) ← orMalformed (name? ts)
  match rest with
  | .mark '=' _ :: rest => ofKey key rest
  | _ => .error .malformed

/-- The arguments of a model, each at most once. -/
structure ModelArguments where
  oid : Option (List Tree)
  tag : Option String
  debug : Option Bool
  deriving DecidableEq

namespace ModelArguments

/-- No arguments. -/
def empty : ModelArguments := ⟨none, none, none⟩

/-- Add an argument that is not there yet. A tag holds more than blanks. -/
def add (as : ModelArguments) : ModelArgument → Except Refusal ModelArguments
  | .oid type =>
    if as.oid.isSome then .error (.repeatedKey "oid") else .ok { as with oid := some type }
  | .tag text =>
    if as.tag.isSome then .error (.repeatedKey "tag")
    else if Text.isBlankText text then .error .blankTag
    else .ok { as with tag := some text }
  | .debug shown =>
    if as.debug.isSome then .error (.repeatedKey "debug") else .ok { as with debug := some shown }

/-- The arguments in a list, in which no key is repeated. -/
def ofList (as : List ModelArgument) : Except Refusal ModelArguments := as.foldlM add empty

/-- The arguments that trees give. -/
def read (ts : List Tree) : Except Refusal ModelArguments := do
  let as ← separated (.error .malformed) ModelArgument.read ts.length ts
  ofList as

end ModelArguments

/-- A path with a value, where a path longer than a name has none. -/
structure Pair where
  name : Option String
  value : List Tree
  deriving DecidableEq

/-- A path with a value at the front of trees. -/
def Pair.read? (ts : List Tree) : Option (Pair × List Tree) := do
  let (path, rest) ← Phrase.split? Rule.phrase attributePath ts
  match rest with
  | .mark '=' _ :: rest =>
    let (value, rest) ← Phrase.split? Rule.phrase attributeValue rest
    let name := match path with
      | [.word w] => some w
      | _ => none
    some (⟨name, value⟩, rest)
  | _ => none

/-- Whether an identifier is shown, by the pairs that its attribute gives. -/
def oidDebug : List Pair → Option Bool → Except Refusal (Option Bool)
  | [], debug => .ok debug
  | p :: ps, debug =>
    if p.name ≠ some "debug" then .error .unknownOidKey
    else if debug.isSome then .error (.repeatedKey "debug")
    else do
      let shown ← boolean "debug" p.value
      oidDebug ps (some shown)

/-- Whether an identifier is shown, if the arguments say so. -/
def readOidDebug (ts : List Tree) : Except Refusal (Option Bool) := do
  let ps ← orMalformed (separated none Pair.read? ts.length ts)
  oidDebug ps none

end VersionedStore.Declaration
