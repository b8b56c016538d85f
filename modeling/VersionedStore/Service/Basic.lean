import VersionedStore.Crud.Answer
import VersionedStore.Service.Error
import VersionedStore.Settings.Basic
import VersionedStore.Store.Basic

/-!
# The service for a model

A service answers requests to create, load, update and delete objects in a store. It keeps to its
settings, checks its rules before it writes, stamps what it writes with the caller and the time, and
reports what it did. A request that cannot be served is answered by a rejection; only a broken
precondition is an error.
-/

namespace VersionedStore

open Crud

/-- Who calls, and what joins the log lines of a request. -/
structure Caller where
  user : Option String := none
  correlation : Option String := none
  deriving DecidableEq, Repr

namespace Caller

/-- A caller without a name. -/
def anonymous : Caller := {}

/-- A caller with a name. -/
def ofUser (user : String) : Caller := { user := some user }

end Caller

/-- What a request takes from outside: the time, and a UUID that was never used before. -/
structure Moment where
  now : Instant
  fresh : Uuid
  deriving DecidableEq

/-- What a service works with. -/
structure Service (M : Model) (σ : Type) where
  store : Store M σ
  settings : Settings := .standard
  validate : M.Object → List Violation := fun _ ↦ []

/-- The answer to a request, unless there is an error. -/
abbrev Reply (α : Type) : Type := Except ServiceError (Answer α)

namespace Service

variable {M : Model} {σ : Type}

/-- The rejection of a request to a service for `M`. -/
def reject (M : Model) (requested : Requested) (oid : Option String) (reason : Reason) :
    Answer M.Object :=
  .rejected (.make requested M.tag oid reason)

/-- Report an event and answer. -/
def answering {α : Type} (e : Event) (a : α) : Action σ α := do
  Action.report e
  return a

/-- The answer when the store fails: what is missing is not found, a collision is the caller's
fault, and anything else is the server's. -/
def answerFailure (M : Model) (requested : Requested) (oid : String) (failure : Failure) :
    Action σ (Answer M.Object) :=
  match failure with
  | .notFound .. => return reject M requested oid .notFound
  | .versionConflict .. | .alreadyExists .. =>
    answering (.conflict M.tag oid requested failure)
      (reject M requested oid (.badRequest failure.message))
  | _ =>
    answering (.storeFailed M.tag oid requested failure)
      (reject M requested oid (.serverError failure.message))

/-- The answer to a write when the service only reads. -/
def answerReadOnly (M : Model) (requested : Requested) (oid : String) : Action σ (Answer M.Object) :=
  answering (.readOnly M.tag oid requested)
    (reject M requested oid (.badRequest "persistence is in read-only mode"))

/-- The answer to a write of an object that breaks rules. -/
def answerInvalid (requested : Requested) (m : M.Object) (violations : List Violation) :
    Action σ (Answer M.Object) :=
  answering (.invalid M.tag m.oidText requested violations.length)
    (reject M requested m.oidText (.invalid violations))

/-- Store a new object. -/
def insert (s : Service M σ) (caller : Caller) (now : Instant) (requested : Requested)
    (m : M.Object) : Action σ (Answer M.Object) := do
  let stamped := { m with
    version := .unsaved
    tracking := m.tracking.stampCreated caller.user now }
  match ← (s.store.persist stamped).run with
  | .ok stored =>
    answering (.created M.tag m.oidText requested stored.version caller.correlation)
      (.created requested stored)
  | .error failure => answerFailure M requested m.oidText failure

/-- Load the object under an OID. -/
def load (s : Service M σ) (caller : Caller) (oid : M.Oid) : Action σ (Reply M.Object) := do
  let text := M.oidKind.textOf oid
  let answer ← match ← (s.store.find oid).run with
    | .ok (some m) => pure (.loaded m)
    | .ok none => pure (reject M .load text .notFound)
    | .error failure => answerFailure M .load text failure
  Action.report (.loaded M.tag text answer.performed caller.correlation)
  return .ok answer

/-- Create an object whose OID is known: the OID must be free and the rules must hold. -/
def createAt (s : Service M σ) (caller : Caller) (now : Instant) (oid : M.Oid) (m : M.Object) :
    Action σ (Answer M.Object) := do
  let text := M.oidKind.textOf oid
  match ← (s.store.contains oid).run with
  | .error failure => answerFailure M .create text failure
  | .ok true =>
    answering (.occupied M.tag text)
      (reject M .create text (.badRequest (M.tag ++ "[" ++ text ++ "] already exists")))
  | .ok false =>
    match s.validate m with
    | [] => s.insert caller now .create m
    | violations => answerInvalid .create m violations

/-- Create an object, giving it an OID if it has none. -/
def create (s : Service M σ) (caller : Caller) (moment : Moment) (m : M.Object) :
    Action σ (Reply M.Object) := do
  if !m.version.isNew then
    return .error (.illegalState (.createOfStored M.tag m.oidText m.version))
  if s.settings.readOnly then
    return .ok (← answerReadOnly M .create m.oidText)
  match m.oid with
  | some oid => return .ok (← s.createAt caller moment.now oid m)
  | none =>
    if !s.settings.generateOids then
      return .ok (← answering (.missingOid M.tag) (reject M .create none
        (.badRequest "oid is required when oid generation is disabled")))
    let oid := M.oidKind.generate moment.fresh
    Action.report (.generatedOid M.tag (M.oidKind.textOf oid))
    return .ok (← s.createAt caller moment.now oid { m with oid := some oid })

/-- Replace the stored object by one with the same OID. -/
def replace (s : Service M σ) (caller : Caller) (now : Instant) (oid : M.Oid) (m : M.Object) :
    Action σ (Answer M.Object) := do
  let text := M.oidKind.textOf oid
  let stamped := { m with tracking := m.tracking.stampUpdated caller.user now }
  match ← (s.store.merge stamped).run with
  | .ok (.updated stored) =>
    answering (.updated M.tag text stored.version caller.correlation) (.updated .update stored)
  | .ok (.notModified stored) =>
    answering (.notModified M.tag text) (.notModified .update stored)
  | .error failure => answerFailure M .update text failure

/-- Update an object whose OID is known: the rules must hold, and a missing object is created if the
settings say so. -/
def updateAt (s : Service M σ) (caller : Caller) (now : Instant) (oid : M.Oid) (m : M.Object) :
    Action σ (Answer M.Object) := do
  let text := M.oidKind.textOf oid
  match s.validate m with
  | [] =>
    match ← (s.store.contains oid).run with
    | .error failure => answerFailure M .update text failure
    | .ok true => s.replace caller now oid m
    | .ok false =>
      if s.settings.createMissing then
        Action.report (.converted M.tag text)
        s.insert caller now .update m
      else answering (.missing M.tag text) (reject M .update text .notFound)
  | violations => answerInvalid .update m violations

/-- Update an object. -/
def update (s : Service M σ) (caller : Caller) (now : Instant) (m : M.Object) :
    Action σ (Reply M.Object) := do
  let some oid := m.oid | return .error (.illegalState (.updateWithoutOid M.tag))
  let text := M.oidKind.textOf oid
  if m.version.isNew then return .error (.illegalState (.updateOfNew M.tag text))
  if s.settings.readOnly then return .ok (← answerReadOnly M .update text)
  return .ok (← s.updateAt caller now oid m)

/-- Create an object that has never been stored, and update another one. -/
def save (s : Service M σ) (caller : Caller) (moment : Moment) (m : M.Object) :
    Action σ (Reply M.Object) :=
  if m.version.isNew then s.create caller moment m else s.update caller moment.now m

/-- Delete the object under an OID. -/
def delete (s : Service M σ) (caller : Caller) (oid : M.Oid) : Action σ (Reply M.Object) := do
  let text := M.oidKind.textOf oid
  if s.settings.readOnly then return .ok (← answerReadOnly M .delete text)
  match ← (s.store.remove oid).run with
  | .ok (some removed) =>
    answering (.deleted M.tag text caller.correlation) (.ok (.deleted removed))
  | .ok none => return .ok (reject M .delete text .notFound)
  | .error failure => return .ok (← answerFailure M .delete text failure)

/-- Load all objects by their numeric ids. -/
def loadAll (s : Service M σ) (caller : Caller) :
    Action σ (Except ServiceError (List M.Object)) := do
  match ← s.store.findAll.run with
  | .ok all => answering (.loadedAll M.tag all.length caller.correlation) (.ok all)
  | .error failure => return .error (.domain failure)

end Service

end VersionedStore
