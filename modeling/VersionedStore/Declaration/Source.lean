import VersionedStore.Declaration.Arguments
import VersionedStore.Declaration.Derive
import VersionedStore.Declaration.Lexer

/-!
# Source texts

Whole texts read as the parts of a declaration.
-/

namespace VersionedStore.Declaration

/-- The trees of a source text. -/
def source (s : String) : Except Refusal (List Tree) := orMalformed (trees? s)

/-- What a reader takes from a text, all of it. -/
def wholeText {α : Type} (read : List Tree → Option (α × List Tree)) (s : String) :
    Except Refusal α := do
  let ts ← source s
  match read ts with
  | some (a, []) => .ok a
  | _ => .error .malformed

/-- The struct that a text declares. -/
def Struct.ofText (s : String) : Except Refusal Struct := do
  let ts ← source s
  orMalformed (Struct.read? ts)

/-- The path that a text is. -/
def Path.ofText : String → Except Refusal Path := wholeText Path.read?

/-- The type that a text is. -/
def typeOfText : String → Except Refusal (List Tree) := wholeText type?

/-- The visibility that a text is. -/
def visibilityOfText : String → Except Refusal (List Tree) := wholeText visibility?

/-- The boolean that a text is, as the value of a key. -/
def booleanOfText (key s : String) : Except Refusal Bool := do
  let value ← wholeText expression? s
  boolean key value

end VersionedStore.Declaration
