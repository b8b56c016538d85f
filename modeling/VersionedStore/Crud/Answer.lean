import VersionedStore.Crud.Operation
import VersionedStore.Validation

/-!
# Answers to requests

A request is answered by what was done and the object it was done with, or by a rejection. A
rejection names the request, the kind of object and, unless its text is empty, the OID.
-/

namespace VersionedStore.Crud

/-- Why a request is rejected. -/
inductive Reason where
  | badRequest (reason : String)
  | notFound
  | invalid (violations : List Violation)
  | serverError (reason : String)
  deriving DecidableEq

/-- The sentence for a reason. -/
def Reason.text : Reason → String
  | .badRequest reason => "bad request: " ++ reason
  | .notFound => "not found"
  | .invalid violations => "validation failed: " ++ "; ".intercalate (violations.map Violation.text)
  | .serverError reason => "server error: " ++ reason

private theorem pair_eq {β γ : Type} {a a' : β} {b b' : γ} (h : a = a') (h' : b = b') :
    (a, b) = (a', b') := by
  rw [h, h']

/-- A reason is written under its name. -/
instance : Coded Reason where
  schema :=
    .choice "BadRequest" (.fields "struct variant CrudErrorKind::BadRequest" <|
      .cons "reason" .required .text .nil) <|
    .cons "NotFound" .nothing <|
    .cons "Validation" (.fields "struct variant CrudErrorKind::Validation" <|
      .cons "errors" .required (.list (Coded.schema Violation)) .nil) <|
    .cons "ServerError" (.fields "struct variant CrudErrorKind::ServerError" <|
      .cons "reason" .required .text .nil) .nil
  toValue
    | .badRequest reason => .inl (reason, ())
    | .notFound => .inr (.inl ())
    | .invalid violations => .inr (.inr (.inl (Coded.toValue violations, ())))
    | .serverError reason => .inr (.inr (.inr (.inl (reason, ()))))
  ofValue
    | .inl (reason, _) => .badRequest reason
    | .inr (.inl _) => .notFound
    | .inr (.inr (.inl (violations, _))) => .invalid (Coded.ofValue (α := List Violation) violations)
    | .inr (.inr (.inr (.inl (reason, _)))) => .serverError reason
  ofValue_toValue r := by
    cases r with
    | invalid violations => exact congrArg Reason.invalid (Coded.ofValue_toValue violations)
    | _ => rfl
  toValue_ofValue v := by
    match v with
    | .inl _ | .inr (.inl _) | .inr (.inr (.inr (.inl _))) => rfl
    | .inr (.inr (.inl (violations, _))) =>
      exact congrArg (fun w ↦ Sum.inr (Sum.inr (Sum.inl (w, ()))))
        (Coded.toValue_ofValue (α := List Violation) violations)

/-- A request that was not served. -/
structure Rejection where
  requested : Requested
  tag : String
  oid : Option String
  reason : Reason
  deriving DecidableEq

namespace Rejection

/-- The rejection of a request; an empty OID text counts as none. -/
def make (requested : Requested) (tag : String) (oid : Option String)
    (reason : Reason) : Rejection :=
  ⟨requested, tag, oid.filter fun o ↦ o ≠ "", reason⟩

/-- The rejection as one line. -/
def text (r : Rejection) : String :=
  r.requested.text ++ " " ++ r.tag ++ "[" ++ r.oid.getD "-" ++ "] failed: " ++ r.reason.text

/-- A rejection is written with all its fields. -/
instance : Coded Rejection where
  schema := .record "struct CrudError" false <|
    .cons "requested" .required (Coded.schema Requested) <| .cons "model_type" .required .text <|
    .cons "oid" .required (.optional .text) <| .cons "kind" .required (Coded.schema Reason) .nil
  toValue r := (Coded.toValue r.requested, r.tag, r.oid, Coded.toValue r.reason, ())
  ofValue v :=
    let (requested, tag, oid, reason, _) := v
    ⟨Coded.ofValue requested, tag, oid, Coded.ofValue reason⟩
  ofValue_toValue r := by
    cases r
    simp only [Coded.ofValue_toValue]
  toValue_ofValue v := by
    obtain ⟨requested, tag, oid, reason, ⟨⟩⟩ := v
    exact pair_eq (Coded.toValue_ofValue (α := Requested) requested) <| pair_eq rfl <|
      pair_eq rfl <| pair_eq (Coded.toValue_ofValue (α := Reason) reason) rfl

end Rejection

/-- A request that was served, with the object it was about. -/
structure Success (α : Type) where
  requested : Requested
  performed : Performed
  object : α
  deriving DecidableEq

/-- What a request is answered. -/
inductive Answer (α : Type) where
  | done (success : Success α)
  | rejected (rejection : Rejection)
  deriving DecidableEq

/-- A success is written with all its fields. -/
instance {α : Type} [Coded α] : Coded (Success α) where
  schema := .record "struct CrudOk" false <|
    .cons "requested" .required (Coded.schema Requested) <|
    .cons "performed" .required (Coded.schema Performed) <|
    .cons "model_object" .required (Coded.schema α) .nil
  toValue s := (Coded.toValue s.requested, Coded.toValue s.performed, Coded.toValue s.object, ())
  ofValue v :=
    let (requested, performed, object, _) := v
    ⟨Coded.ofValue requested, Coded.ofValue performed, Coded.ofValue object⟩
  ofValue_toValue s := by
    cases s
    simp only [Coded.ofValue_toValue]
  toValue_ofValue v := by
    obtain ⟨requested, performed, object, ⟨⟩⟩ := v
    exact pair_eq (Coded.toValue_ofValue (α := Requested) requested) <|
      pair_eq (Coded.toValue_ofValue (α := Performed) performed) <|
      pair_eq (Coded.toValue_ofValue (α := α) object) rfl

/-- An answer is written under `Ok` or `Err`. -/
instance {α : Type} [Coded α] : Coded (Answer α) where
  schema := .choice "Ok" (.one (Coded.schema (Success α))) <|
    .cons "Err" (.one (Coded.schema Rejection)) .nil
  toValue
    | .done success => .inl (Coded.toValue success)
    | .rejected rejection => .inr (.inl (Coded.toValue rejection))
  ofValue
    | .inl success => .done (Coded.ofValue (α := Success α) success)
    | .inr (.inl rejection) => .rejected (Coded.ofValue (α := Rejection) rejection)
  ofValue_toValue a := by
    cases a with
    | done success => exact congrArg Answer.done (Coded.ofValue_toValue success)
    | rejected rejection => exact congrArg Answer.rejected (Coded.ofValue_toValue rejection)
  toValue_ofValue v := by
    match v with
    | .inl success => exact congrArg Sum.inl (Coded.toValue_ofValue (α := Success α) success)
    | .inr (.inl rejection) =>
      exact congrArg (fun w ↦ Sum.inr (Sum.inl w)) (Coded.toValue_ofValue (α := Rejection) rejection)

namespace Answer

variable {α β : Type}

/-- What was asked for. -/
def requested : Answer α → Requested
  | .done s => s.requested
  | .rejected r => r.requested

/-- What was done, if the request was served. -/
def performed : Answer α → Option Performed
  | .done s => some s.performed
  | .rejected _ => none

/-- The object of a request that was served. -/
def object : Answer α → Option α
  | .done s => some s.object
  | .rejected _ => none

/-- The rejection, if there is one. -/
def rejection : Answer α → Option Rejection
  | .done _ => none
  | .rejected r => some r

/-- Was the request served? -/
def isDone : Answer α → Bool
  | .done _ => true
  | .rejected _ => false

/-- Did the request change what is stored? -/
def isWrite (a : Answer α) : Bool := a.performed.any Performed.isWrite

/-- The answer with another object in place of its own. -/
def map (f : α → β) : Answer α → Answer β
  | .done s => .done ⟨s.requested, s.performed, f s.object⟩
  | .rejected r => .rejected r

/-- The object, or why there is none. -/
def toExcept : Answer α → Except Rejection α
  | .done s => .ok s.object
  | .rejected r => .error r

/-- An object was found. -/
def loaded (m : α) : Answer α := .done ⟨.load, .loaded, m⟩

/-- An object was stored for the first time. -/
def created (requested : Requested) (m : α) : Answer α := .done ⟨requested, .created, m⟩

/-- A stored object was changed. -/
def updated (requested : Requested) (m : α) : Answer α := .done ⟨requested, .updated, m⟩

/-- A stored object was taken out. -/
def deleted (m : α) : Answer α := .done ⟨.delete, .deleted, m⟩

/-- A stored object was already as it should become. -/
def notModified (requested : Requested) (m : α) : Answer α := .done ⟨requested, .notModified, m⟩

/-- Putting another object in place does not change what was asked for. -/
theorem requested_map (f : α → β) (a : Answer α) : (a.map f).requested = a.requested := by
  cases a <;> rfl

end Answer

end VersionedStore.Crud
