import VersionedStore.Schema.Coded

/-!
# Operations

The operation that a caller requests, and the one that is performed in the end. They may differ: an
update may create an object, or find nothing to change.
-/

namespace VersionedStore.Crud

/-- What a caller asks for. -/
inductive Requested where
  | create
  | update
  | delete
  | load
  deriving DecidableEq, Repr

/-- What is done. -/
inductive Performed where
  | created
  | updated
  | deleted
  | loaded
  | notModified
  deriving DecidableEq, Repr

/-- The word for a requested operation. -/
def Requested.text : Requested → String
  | .create => "create"
  | .update => "update"
  | .delete => "delete"
  | .load => "load"

/-- The word for a performed operation. -/
def Performed.text : Performed → String
  | .created => "created"
  | .updated => "updated"
  | .deleted => "deleted"
  | .loaded => "loaded"
  | .notModified => "not_modified"

/-- The name of a performed operation in JSON and in log lines. -/
def Performed.name : Performed → String
  | .created => "Created"
  | .updated => "Updated"
  | .deleted => "Deleted"
  | .loaded => "Loaded"
  | .notModified => "NotModified"

/-- Does the operation change what is stored? -/
def Performed.isWrite : Performed → Bool
  | .created | .updated | .deleted => true
  | .loaded | .notModified => false

/-- What is performed when an operation is served as requested. -/
def Requested.served : Requested → Performed
  | .create => .created
  | .update => .updated
  | .delete => .deleted
  | .load => .loaded

/-- A requested operation is written as its name. -/
instance : Coded Requested where
  schema := .choice "Create" .nothing <| .cons "Update" .nothing <| .cons "Delete" .nothing <|
    .cons "Load" .nothing .nil
  toValue
    | .create => .inl ()
    | .update => .inr (.inl ())
    | .delete => .inr (.inr (.inl ()))
    | .load => .inr (.inr (.inr (.inl ())))
  ofValue
    | .inl _ => .create
    | .inr (.inl _) => .update
    | .inr (.inr (.inl _)) => .delete
    | .inr (.inr (.inr (.inl _))) => .load
  ofValue_toValue r := by cases r <;> rfl
  toValue_ofValue v := by
    match v with
    | .inl _ | .inr (.inl _) | .inr (.inr (.inl _)) | .inr (.inr (.inr (.inl _))) => rfl

/-- A performed operation is written as its name. -/
instance : Coded Performed where
  schema := .choice (Performed.name .created) .nothing <|
    .cons (Performed.name .updated) .nothing <| .cons (Performed.name .deleted) .nothing <|
    .cons (Performed.name .loaded) .nothing <| .cons (Performed.name .notModified) .nothing .nil
  toValue
    | .created => .inl ()
    | .updated => .inr (.inl ())
    | .deleted => .inr (.inr (.inl ()))
    | .loaded => .inr (.inr (.inr (.inl ())))
    | .notModified => .inr (.inr (.inr (.inr (.inl ()))))
  ofValue
    | .inl _ => .created
    | .inr (.inl _) => .updated
    | .inr (.inr (.inl _)) => .deleted
    | .inr (.inr (.inr (.inl _))) => .loaded
    | .inr (.inr (.inr (.inr (.inl _)))) => .notModified
  ofValue_toValue p := by cases p <;> rfl
  toValue_ofValue v := by
    match v with
    | .inl _ | .inr (.inl _) | .inr (.inr (.inl _)) | .inr (.inr (.inr (.inl _)))
    | .inr (.inr (.inr (.inr (.inl _)))) => rfl

/-- An operation that is served as requested is a write unless it is a load. -/
theorem isWrite_served (r : Requested) : r.served.isWrite = true ↔ r ≠ .load := by
  cases r <;> decide

end VersionedStore.Crud
