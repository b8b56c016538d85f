import VersionedStore.Text.Decimal
import VersionedStore.Text.Quoted

/-!
# Log entries

An entry has a level, the part of the program that it comes from, a message and named values in
their order. As a line, the values follow the message; recorded strings stand between quotes.
-/

namespace VersionedStore.Log

/-- How important an entry is. -/
inductive Level where
  | trace
  | debug
  | info
  | warn
  | error
  deriving DecidableEq, Repr

/-- The level as a number that grows with its importance. -/
def Level.rank : Level → Nat
  | .trace => 0
  | .debug => 1
  | .info => 2
  | .warn => 3
  | .error => 4

/-- The name of a level. -/
def Level.name : Level → String
  | .trace => "TRACE"
  | .debug => "DEBUG"
  | .info => "INFO"
  | .warn => "WARN"
  | .error => "ERROR"

/-- A value that an entry records: a string, the text by which some value is shown, or a number. -/
inductive Value where
  | string (s : String)
  | shown (text : String)
  | number (n : Nat)
  deriving DecidableEq, Repr

/-- A value as it stands in a line. -/
def Value.text : Value → String
  | .string s => Text.quoted s
  | .shown text => text
  | .number n => Text.Decimal.ofNat n

/-- An entry of a log. -/
structure Entry where
  level : Level
  target : String
  message : String
  fields : List (String × Value)
  deriving DecidableEq, Repr

namespace Entry

/-- The entry as a line. -/
def line (e : Entry) : String :=
  " ".intercalate (e.level.name :: e.message :: e.fields.map fun f ↦ f.1 ++ "=" ++ f.2.text)

/-- The line behind a time; short names of levels are moved to the right. -/
def stamped (time : String) (e : Entry) : String :=
  time ++ (if e.level.name.length < 5 then "  " else " ") ++ e.line

/-- The value that is recorded under a name. -/
def field? (name : String) (e : Entry) : Option Value :=
  (e.fields.find? fun f ↦ f.1 == name).map Prod.snd

end Entry

end VersionedStore.Log
