import VersionedStore.Version

/-!
# Failures

Why an operation of the library fails: one constructor for each kind of failure, with its cause. A
cause is a fact that this library found, or a reason that a caller or another store stated. The
wording is in `Failure.message` and the functions before it.
-/

namespace VersionedStore

namespace Failure

/-- Why a text does not parse. -/
inductive Parsing where
  | integer (fault : Text.Decimal.Fault)
  | boolean
  | uuid
  | stated (reason : String)
  deriving DecidableEq, Repr

/-- The sentence for a text that does not parse. -/
def Parsing.message : Parsing → String
  | .integer fault => fault.message
  | .boolean => "provided string was not `true` or `false`"
  | .uuid => "UUID parsing failed"
  | .stated reason => reason

/-- Why settings cannot be taken. -/
inductive Configuration where
  | notAFlag (key found : String)
  | malformedFile
  | missingFile
  | directory
  | notText
  | stated (reason : String)
  deriving DecidableEq, Repr

/-- The sentence for settings that cannot be taken. -/
def Configuration.message : Configuration → String
  | .notAFlag key found => key ++ ": expected a boolean, found '" ++ found ++ "'"
  | .malformedFile => "TOML parse error"
  | .missingFile => "No such file or directory (os error 2)"
  | .directory => "Is a directory (os error 21)"
  | .notText => "stream did not contain valid UTF-8"
  | .stated reason => reason

/-- Why a table does not give or take a value. -/
inductive Database where
  | negativeColumn (n : Int)
  | tooLarge (n : Nat)
  | stated (reason : String)
  deriving DecidableEq, Repr

/-- The sentence for a value that a table does not give or take. -/
def Database.message : Database → String
  | .negativeColumn n => "negative column value " ++ Text.Decimal.ofInt n ++ ": " ++
    Text.Decimal.Fault.message .tooSmall
  | .tooLarge n => "value " ++ Text.Decimal.ofNat n ++ " out of range: " ++
    Text.Decimal.Fault.message .tooLarge
  | .stated reason => reason

/-- Why an object cannot take part in an operation. -/
inductive State where
  | withoutOid (tag : String)
  | lastVersion (version : Version)
  | stated (reason : String)
  deriving DecidableEq

/-- The sentence for an object that cannot take part in an operation. -/
def State.message : State → String
  | .withoutOid tag => tag ++ " without oid cannot be stored"
  | .lastVersion version => "entity version " ++ version.digits ++ " cannot be incremented"
  | .stated reason => reason

/-- Why a value contradicts itself. -/
inductive Value where
  | updatedBeforeCreation
  | neverCreated
  | stated (reason : String)
  deriving DecidableEq, Repr

/-- The sentence for a value that contradicts itself. -/
def Value.message : Value → String
  | .updatedBeforeCreation => "last update precedes creation"
  | .neverCreated => "updated but never created"
  | .stated reason => reason

end Failure

/-- Why an operation fails. -/
inductive Failure where
  | serialization (fault : Json.Fault)
  | parsing (cause : Failure.Parsing)
  | configuration (cause : Failure.Configuration)
  | database (cause : Failure.Database)
  | alreadyExists (tag oid : String)
  | notFound (tag oid : String)
  | versionConflict (expected actual : Version)
  | invalidState (cause : Failure.State)
  | invalidValue (cause : Failure.Value)
  deriving DecidableEq

/-- The sentence for a failure. -/
def Failure.message : Failure → String
  | .serialization fault => "serialization error: " ++ fault.message
  | .parsing cause => "parse error: " ++ cause.message
  | .configuration cause => "config error: " ++ cause.message
  | .database cause => "database error: " ++ cause.message
  | .alreadyExists tag oid => "already exists: model_type=" ++ tag ++ ", oid=" ++ oid
  | .notFound tag oid => "not found: model_type=" ++ tag ++ ", oid=" ++ oid
  | .versionConflict expected actual =>
    "version conflict: expected=" ++ expected.digits ++ ", actual=" ++ actual.digits
  | .invalidState cause => "invalid state: " ++ cause.message
  | .invalidValue cause => "invalid value: " ++ cause.message

/-- The version after this one, or the failure that there is none. -/
def Version.tryNext (v : Version) : Except Failure Version :=
  match v.next? with
  | some w => .ok w
  | none => .error (.invalidState (.lastVersion v))

/-- Taking the next version fails for the last one only. -/
theorem Version.tryNext_eq_error_iff {v : Version} {f : Failure} :
    v.tryNext = .error f ↔ v = .last ∧ f = .invalidState (.lastVersion v) := by
  rw [← Version.next?_eq_none_iff]
  unfold Version.tryNext
  cases h : v.next? <;> simp [eq_comm]

end VersionedStore
