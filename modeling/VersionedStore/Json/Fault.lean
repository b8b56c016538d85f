import VersionedStore.Instant.Rfc3339
import VersionedStore.Text.Quoted

/-!
# Why JSON is not what was expected

One type holds the causes: what the value is not, and where its text is no JSON. The wording of each
cause is in one function.
-/

namespace VersionedStore.Json

/-- What stands where something else was expected. -/
inductive Found where
  | null
  | boolean (b : Bool)
  | integer (n : Int)
  | float
  | string (s : String)
  | sequence
  | map
  | bareCase
  deriving DecidableEq, Repr

/-- How a found value is named in a message. -/
def Found.message : Found → String
  | .null => "null"
  | .boolean true => "boolean `true`"
  | .boolean false => "boolean `false`"
  | .integer n => "integer `" ++ Text.Decimal.ofInt n ++ "`"
  | .float => "floating point"
  | .string s => "string " ++ Text.quoted s
  | .sequence => "sequence"
  | .map => "map"
  | .bareCase => "unit variant"

/-- Where a text stops being JSON. -/
inductive Malformed where
  | endOfValue
  | endOfList
  | endOfObject
  | endOfString
  | value
  | word
  | colon
  | commaOrBracket
  | commaOrBrace
  | key
  | trailingComma
  | trailingCharacters
  | number
  | numberOutOfRange
  | escape
  | endOfHexEscape
  | loneSurrogate
  | control
  | tooDeep
  deriving DecidableEq, Repr

/-- The sentence for a place where a text stops being JSON. -/
def Malformed.message : Malformed → String
  | .endOfValue => "EOF while parsing a value"
  | .endOfList => "EOF while parsing a list"
  | .endOfObject => "EOF while parsing an object"
  | .endOfString => "EOF while parsing a string"
  | .value => "expected value"
  | .word => "expected ident"
  | .colon => "expected `:`"
  | .commaOrBracket => "expected `,` or `]`"
  | .commaOrBrace => "expected `,` or `\x7d`"
  | .key => "key must be a string"
  | .trailingComma => "trailing comma"
  | .trailingCharacters => "trailing characters"
  | .number => "invalid number"
  | .numberOutOfRange => "number out of range"
  | .escape => "invalid escape"
  | .endOfHexEscape => "unexpected end of hex escape"
  | .loneSurrogate => "lone leading surrogate in hex escape"
  | .control => "control character (\\u0000-\\u001F) found while parsing a string"
  | .tooDeep => "recursion limit exceeded"

/-- Why a JSON value or its text is not what was expected. -/
inductive Fault where
  | wrongType (found : Found) (expected : String)
  | outOfRange (n : Int) (expected : String)
  | notOneKey
  | wrongLength (length : Nat) (expected : String)
  | missingField (name : String)
  | duplicateField (name : String)
  | unknownField (name : String) (known : List String)
  | unknownCase (name : String) (known : List String)
  | badInstant (fault : Instant.Fault)
  | badUuid
  | malformed (place : Malformed)
  deriving DecidableEq, Repr

/-- The names that were possible: one or two are named alone, more as a choice. -/
def oneOf : List String → String
  | [] => "there are no fields"
  | [a] => "expected `" ++ a ++ "`"
  | [a, b] => "expected `" ++ a ++ "` or `" ++ b ++ "`"
  | names => "expected one of " ++ ", ".intercalate (names.map fun n ↦ "`" ++ n ++ "`")

/-- The sentence for a fault. -/
def Fault.message : Fault → String
  | .wrongType found expected => "invalid type: " ++ found.message ++ ", expected " ++ expected
  | .outOfRange n expected =>
    "invalid value: integer `" ++ Text.Decimal.ofInt n ++ "`, expected " ++ expected
  | .notOneKey => "invalid value: map, expected map with a single key"
  | .wrongLength length expected =>
    "invalid length " ++ Text.Decimal.ofNat length ++ ", expected " ++ expected
  | .missingField name => "missing field `" ++ name ++ "`"
  | .duplicateField name => "duplicate field `" ++ name ++ "`"
  | .unknownField name known => "unknown field `" ++ name ++ "`, " ++ oneOf known
  | .unknownCase name known => "unknown variant `" ++ name ++ "`, " ++ oneOf known
  | .badInstant fault => fault.message
  | .badUuid => "UUID parsing failed"
  | .malformed place => place.message

end VersionedStore.Json
