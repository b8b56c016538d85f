import VersionedStore.Crud.Action
import VersionedStore.Model.Object

/-!
# Stores

A store keeps the objects of a model in some state. `persist` takes in an object that is not there
yet, `merge` replaces one that is there if the submitted version is the stored one and the content
differs, and every operation may fail.
-/

namespace VersionedStore

open Crud

/-- What a merge does: it replaces the stored object, or finds that it would not change. -/
inductive Merged (α : Type) where
  | updated (m : α)
  | notModified (m : α)
  deriving DecidableEq

/-- The object that is stored after a merge. -/
def Merged.object {α : Type} : Merged α → α
  | .updated m | .notModified m => m

/-- An action that may fail. -/
abbrev Attempt (σ : Type) : Type → Type := ExceptT Failure (Action σ)

/-- Report an event in an action that may fail. -/
def Attempt.report {σ : Type} (e : Event) : Attempt σ Unit := ExceptT.lift (Action.report e)

/-- The operations of a store for a model over a state. -/
structure Store (M : Model) (σ : Type) where
  find : M.Oid → Attempt σ (Option M.Object)
  contains : M.Oid → Attempt σ Bool
  findAll : Attempt σ (List M.Object)
  persist : M.Object → Attempt σ M.Object
  merge : M.Object → Attempt σ (Merged M.Object)
  remove : M.Oid → Attempt σ (Option M.Object)

/-- Whether something is there, found out by looking for it. -/
def containsByFind {O α σ : Type} (find : O → Attempt σ (Option α)) (oid : O) : Attempt σ Bool := do
  let found ← find oid
  return found.isSome

namespace Model.Object

variable {M : Model}

/-- The OID of an object that is to be stored. -/
def requireOid (m : M.Object) : Except Failure M.Oid :=
  match m.oid with
  | some oid => .ok oid
  | none => .error (.invalidState (.withoutOid M.tag))

/-- The object that replaces a stored one: creation and numeric id are kept, the version counts on.
-/
def succeeding (m stored : M.Object) (version : Version) : M.Object :=
  { m with
    numericId := stored.numericId <|> m.numericId
    version
    tracking := m.tracking.carryCreation stored.tracking }

/-- Objects without OID are not stored. -/
theorem requireOid_eq_ok_iff {m : M.Object} {oid : M.Oid} :
    m.requireOid = .ok oid ↔ m.oid = some oid := by
  unfold requireOid
  split <;> simp_all

end Model.Object

end VersionedStore
