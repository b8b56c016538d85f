import VersionedStore.Crud.Answer
import VersionedStore.Text.Blank

/-!
# Answers over HTTP

The serving side turns an answer into a status and a body; the asking side turns them back into an
answer. The operation that was performed is not sent: it follows from the status and the request.
-/

namespace VersionedStore.Http

open Crud

/-- A status and a body. -/
structure Response where
  status : Nat
  body : String
  deriving DecidableEq, Repr

/-- The status codes in use. -/
inductive Status where
  | ok
  | created
  | notModified
  | badRequest
  | notFound
  | unprocessable
  | serverError
  deriving DecidableEq, Repr

/-- The code of a status. -/
def Status.code : Status → Nat
  | .ok => 200
  | .created => 201
  | .notModified => 304
  | .badRequest => 400
  | .notFound => 404
  | .unprocessable => 422
  | .serverError => 500

/-- The status that a code stands for, if it is in use. -/
def Status.ofCode? : Nat → Option Status
  | 200 => some .ok
  | 201 => some .created
  | 304 => some .notModified
  | 400 => some .badRequest
  | 404 => some .notFound
  | 422 => some .unprocessable
  | 500 => some .serverError
  | _ => none

/-- The status of an operation that was performed. -/
def Status.ofPerformed : Performed → Status
  | .created => .created
  | .notModified => .notModified
  | .loaded | .updated | .deleted => .ok

/-- The status of a rejection. -/
def Status.ofReason : Reason → Status
  | .badRequest _ => .badRequest
  | .notFound => .notFound
  | .invalid _ => .unprocessable
  | .serverError _ => .serverError

/-- The status of an answer. -/
def Status.ofAnswer {α : Type} : Answer α → Status
  | .done s => .ofPerformed s.performed
  | .rejected r => .ofReason r.reason

/-- The body that tells why a request was rejected. -/
def reasonBody : Reason → String
  | .badRequest reason | .serverError reason => reason
  | .notFound => ""
  | .invalid violations => jsonText violations

variable {α : Type} [Coded α]

/-- The body of an answer. -/
def answerBody : Answer α → String
  | .done s => jsonText s.object
  | .rejected r => reasonBody r.reason

/-- The response that serves an answer. -/
def Response.ofAnswer (a : Answer α) : Response := ⟨(Status.ofAnswer a).code, answerBody a⟩

/-- What was performed, by the status of a response to a request; none for a rejection. -/
def performedBy (requested : Requested) : Status → Option Performed
  | .created => some .created
  | .notModified => some .notModified
  | .ok => some requested.served
  | _ => none

/-- The violations in a body; a body that is no list of them is the message of the only one. -/
def violationsOf (body : String) : List Violation :=
  match ofJsonText (List Violation) body with
  | .ok violations => violations
  | .error _ => [⟨none, body⟩]

/-- The reason for a status that is not in use otherwise. -/
def unexpectedReason (r : Response) : String :=
  if r.body.isEmpty then "unexpected status " ++ Text.Decimal.ofNat r.status
  else "status " ++ Text.Decimal.ofNat r.status ++ ": " ++ r.body

/-- Why a request was rejected, by the response to it. -/
def Response.reason (r : Response) : Reason :=
  match Status.ofCode? r.status with
  | some .badRequest => .badRequest r.body
  | some .notFound => .notFound
  | some .unprocessable => .invalid (violationsOf r.body)
  | _ => .serverError (unexpectedReason r)

/-- The reason when the body of a success is no object. -/
def undecodable (tag : String) (r : Response) (fault : Json.Fault) : Reason :=
  .serverError <| "undecodable " ++ tag ++ " in " ++ Text.Decimal.ofNat r.status ++ " response: " ++
    fault.message

/-- The answer that a response to a request stands for. -/
def Response.toAnswer (requested : Requested) (tag : String) (oid : Option String) (r : Response) :
    Answer α :=
  match (Status.ofCode? r.status).bind (performedBy requested) with
  | some performed =>
    match ofJsonText α r.body with
    | .ok object => .done ⟨requested, performed, object⟩
    | .error fault => .rejected (.make requested tag oid (undecodable tag r fault))
  | none => .rejected (.make requested tag oid r.reason)

/-- The answer that a response to an update stands for. A response that nothing was modified need
not repeat the object that was sent. -/
def Response.toUpdateAnswer (tag : String) (oid : Option String) (r : Response) (sent : α) :
    Answer α :=
  if Status.ofCode? r.status = some .notModified ∧ Text.isBlankText r.body then
    .notModified .update sent
  else r.toAnswer .update tag oid

/-- A status is found by its code. -/
theorem Status.ofCode?_code (s : Status) : ofCode? s.code = some s := by
  cases s <;> rfl

/-- The status and the request tell what was performed, if the request fits it. -/
theorem performedBy_ofPerformed {requested : Requested} {performed : Performed}
    (h : performed ∈ [.created, .notModified, requested.served]) :
    performedBy requested (.ofPerformed performed) = some performed := by
  revert h
  cases requested <;> cases performed <;> decide

end VersionedStore.Http
