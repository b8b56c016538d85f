import VersionedStore.Failure
import VersionedStore.Text.Blank

/-!
# Settings

What a service may do with its store. Settings come from defaults, a file, and overriding texts such
as the environment's, in layers: a text that is given replaces its setting and leaves the others
alone.
-/

namespace VersionedStore

/-- What a service may do with its store. -/
structure Settings where
  readOnly : Bool
  generateOids : Bool
  createMissing : Bool
  deriving DecidableEq, Repr

namespace Settings

/-- Writes are allowed, OIDs are generated, and an update of a missing object creates it. -/
def standard : Settings := ⟨false, true, true⟩

instance : Inhabited Settings := ⟨standard⟩

/-- Settings may be left out. -/
instance : Coded Settings where
  schema := .record "struct PersistenceConfig" false <|
    .cons "read_only" .filled (.flag standard.readOnly) <|
    .cons "auto_generate_oid" .filled (.flag standard.generateOids) <|
    .cons "update_creates_missing" .filled (.flag standard.createMissing) .nil
  toValue s := (s.readOnly, s.generateOids, s.createMissing, ())
  ofValue v :=
    let (readOnly, generateOids, createMissing, _) := v
    ⟨readOnly, generateOids, createMissing⟩
  ofValue_toValue _ := rfl
  toValue_ofValue _ := rfl

/-- The key under which `readOnly` is overridden. -/
def readOnlyKey : String := "R01F_READ_ONLY"

/-- The key under which `generateOids` is overridden. -/
def generateOidsKey : String := "R01F_AUTO_GENERATE_OID"

/-- The key under which `createMissing` is overridden. -/
def createMissingKey : String := "R01F_UPDATE_CREATES_MISSING"

/-- A text without the blanks around it and with small ASCII letters. -/
def normalize (s : String) : String := Text.asciiSmall (Text.trim s)

/-- The flag that a normalized text stands for. -/
def flagOfWord? : String → Option Bool
  | "1" | "true" | "yes" | "on" => some true
  | "0" | "false" | "no" | "off" => some false
  | _ => none

/-- The flag that a text stands for. -/
def readFlag (key s : String) : Except Failure Bool :=
  match flagOfWord? (normalize s) with
  | some b => .ok b
  | none => .error (.configuration (.notAFlag key (normalize s)))

/-- A setting, or what overrides it. -/
def override (lookup : String → Option String) (key : String) (old : Bool) : Except Failure Bool :=
  match lookup key with
  | some s => readFlag key s
  | none => .ok old

/-- The settings with what overrides them. -/
def withOverrides (lookup : String → Option String) (s : Settings) : Except Failure Settings := do
  let readOnly ← override lookup readOnlyKey s.readOnly
  let generateOids ← override lookup generateOidsKey s.generateOids
  let createMissing ← override lookup createMissingKey s.createMissing
  .ok ⟨readOnly, generateOids, createMissing⟩

end Settings

end VersionedStore
