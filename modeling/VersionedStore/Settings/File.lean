import VersionedStore.Settings.Basic
import VersionedStore.Toml.Reader

/-!
# Settings files

A settings file is a TOML file with a flag for each setting that it gives. Other keys are passed
over, but all of the file must be well formed.
-/

namespace VersionedStore.Settings

/-- The flag under a key, if the key is there. -/
def flagIn (scope : Toml.Scope) (key : String) (initial : Bool) : Except Failure Bool :=
  match scope.get? [.key key] with
  | none => .ok initial
  | some (.value (.flag b)) => .ok b
  | some _ => .error (.configuration .malformedFile)

/-- The settings in the text of a file. -/
def ofText (s : String) : Except Failure Settings := do
  let some scope := Toml.read? s | .error (.configuration .malformedFile)
  let readOnly ← flagIn scope "read_only" standard.readOnly
  let generateOids ← flagIn scope "auto_generate_oid" standard.generateOids
  let createMissing ← flagIn scope "update_creates_missing" standard.createMissing
  .ok ⟨readOnly, generateOids, createMissing⟩

/-- What is found at the path of a settings file. -/
inductive FileContent where
  | nothing
  | directory
  | bytes (content : ByteArray)

/-- The settings of a file. -/
def ofFile : FileContent → Except Failure Settings
  | .nothing => .error (.configuration .missingFile)
  | .directory => .error (.configuration .directory)
  | .bytes content =>
    match String.fromUTF8? content with
    | some s => ofText s
    | none => .error (.configuration .notText)

end VersionedStore.Settings
