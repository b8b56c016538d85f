import VersionedStore.Store.Basic
import VersionedStore.Store.Table

/-!
# The store over the table

The objects of a model as rows of the table: the payload is the document of the object, and the
columns for numeric id and version win over what the payload says. The store is written against
anything that runs statements, `Table.engine` being the table itself.
-/

namespace VersionedStore

open Crud

/-- Something that runs statements. -/
abbrev Engine (σ : Type) : Type 1 := {α : Type} → Statement α → Attempt σ α

/-- The table runs every statement. -/
def Table.engine : Engine Table := fun statement ↦
  ExceptT.lift (Action.of fun t ↦ ⟨(Table.run statement t).1, (Table.run statement t).2, []⟩)

namespace Relational

/-- The number of a column, which may not be negative. -/
def ofColumn (n : Int64Value) : Except Failure (Word 64) :=
  if h : 0 ≤ n.value then .ok ⟨n.value.toNat, Nat.lt_trans n.toNat_lt (by decide)⟩
  else .error (.database (.negativeColumn n.value))

/-- The column of a number, which may have 63 bits at most. -/
def toColumn (n : Word 64) : Except Failure Int64Value :=
  if h : n.val < 0x8000000000000000 then .ok ⟨n.val, by omega⟩
  else .error (.database (.tooLarge n.val))

/-- The object of a row. -/
def ofRow (M : Model) (r : Row) : Except Failure M.Object := do
  let m ← (ofJson M.Object r.payload.json).mapError Failure.serialization
  let numericId ← ofColumn r.numericId
  let version ← ofColumn r.version
  .ok { m with numericId := some numericId, version := ⟨version⟩ }

/-- The object of a row that may not be there. -/
def ofRow? (M : Model) (row : Option Row) : Except Failure (Option M.Object) := row.mapM (ofRow M)

/-- The objects of rows, unless one of them is no object. -/
def ofRows (M : Model) (rows : List Row) : Except Failure (List M.Object) := rows.mapM (ofRow M)

variable {M : Model} {σ : Type}

/-- Look for the object under an OID. -/
def find (engine : Engine σ) (oid : M.Oid) : Attempt σ (Option M.Object) := do
  let row ← engine (.selectOne M.tag (M.oidKind.textOf oid))
  ofRow? M row

/-- All objects by their numeric ids. -/
def findAll (engine : Engine σ) : Attempt σ (List M.Object) := do
  let rows ← engine (.selectAll M.tag)
  ofRows M rows

/-- Take in an object that is not there yet. -/
def persist (engine : Engine σ) (m : M.Object) : Attempt σ M.Object := do
  let text := M.oidKind.textOf (← m.requireOid)
  m.tracking.validate
  let stored := { m with version := .first }
  let version ← toColumn stored.version.number
  let some numericId ← engine (.insert M.tag text version (toDocument stored))
    | throw (.alreadyExists M.tag text)
  return { stored with numericId := some (← ofColumn numericId) }

/-- Put an object in the place of a stored one with its version. If the row has changed since it was
read, say how. -/
def supersede (engine : Engine σ) (text : String) (stored m : M.Object) :
    Attempt σ (Merged M.Object) := do
  (m.tracking.carryCreation stored.tracking).validate
  let next := m.succeeding stored (← m.version.tryNext)
  let version ← toColumn next.version.number
  let expected ← toColumn m.version.number
  if ← engine (.update M.tag text expected version (toDocument next)) then return .updated next
  let some actual ← engine (.selectVersion M.tag text) | throw (.notFound M.tag text)
  throw (.versionConflict m.version ⟨← ofColumn actual⟩)

/-- Replace an object that has been read, unless the version is another or the content the same. -/
def mergeInto (engine : Engine σ) (text : String) (stored m : M.Object) :
    Attempt σ (Merged M.Object) := do
  if stored.version ≠ m.version then throw (.versionConflict m.version stored.version)
  if stored.sameContent m then return .notModified stored
  supersede engine text stored m

/-- Replace an object that is there. -/
def merge (engine : Engine σ) (m : M.Object) : Attempt σ (Merged M.Object) := do
  let oid ← m.requireOid
  let text := M.oidKind.textOf oid
  let some stored ← find engine oid | throw (.notFound M.tag text)
  mergeInto engine text stored m

/-- Take out an object. -/
def remove (engine : Engine σ) (oid : M.Oid) : Attempt σ (Option M.Object) := do
  let row ← engine (.delete M.tag (M.oidKind.textOf oid))
  ofRow? M row

/-- The operations of the store over the table. -/
def store (M : Model) (engine : Engine σ) : Store M σ where
  find := find engine
  contains := containsByFind (find engine)
  findAll := findAll engine
  persist := persist engine
  merge := merge engine
  remove := remove engine

/-- A number goes to its column and back. -/
theorem ofColumn_of_toColumn {n : Word 64} {c : Int64Value} (h : toColumn n = .ok c) :
    ofColumn c = .ok n := by
  unfold toColumn at h
  split at h
  · cases h
    simp [ofColumn]
  · cases h

end Relational

end VersionedStore
