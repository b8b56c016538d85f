import VersionedStore.Proofs.Service.Transition
import VersionedStore.Registry

/-!
# Messages to a registry

A message asks a service by JSON. It stands for a request if its texts can be read, and is answered
as this request, with documents in place of the objects. Sent through a registry it reaches the
service under the tag, and the registry keeps the state that the service leaves.
-/

namespace VersionedStore

open Crud

/-- What is asked of a service with JSON in place of objects. -/
inductive Message where
  | load (oid : String)
  | save (d : Document)
  | delete (oid : String)

namespace Service

variable {M : Model} {σ : Type}

/-- Answer a message. -/
def answerMessage (s : Service M σ) (caller : Caller) (moment : Moment) :
    Message → Action σ (Reply Document)
  | .load oid => s.loadJson caller oid
  | .save d => s.saveJson caller moment d
  | .delete oid => s.deleteJson caller oid

end Service

/-- The request that a message stands for, if its texts can be read. -/
def Message.request? (M : Model) : Message → Option (Service.Request M)
  | .load oid => (M.oidKind.ofText? oid).map .load
  | .save d => (ofJson M.Object d.json).toOption.map .save
  | .delete oid => (M.oidKind.ofText? oid).map .delete

/-- The OID with a text, or the rejection of a request that names it by this text. -/
def readOid (M : Model) (requested : Requested) (text : String) : Except Rejection M.Oid :=
  match M.oidKind.ofText? text with
  | some oid => .ok oid
  | none => .error (.make requested M.tag text (.badRequest ("malformed " ++ M.tag ++ " oid")))

/-- The object that a document stands for, or the rejection of a request to save it. -/
def readBody (M : Model) (d : Document) : Except Rejection M.Object :=
  match ofJson M.Object d.json with
  | .ok m => .ok m
  | .error fault =>
    .error (.make (requestedBySaving d.json) M.tag ((d.json.get? "oid").bind Json.asString?)
      (.badRequest ("malformed " ++ M.tag ++ " body: " ++ fault.message)))

/-- The request that a message stands for, or its rejection if its texts cannot be read. -/
def Message.read (M : Model) : Message → Except Rejection (Service.Request M)
  | .load text => (readOid M .load text).map .load
  | .save d => (readBody M d).map .save
  | .delete text => (readOid M .delete text).map .delete

/-- What is read of a message is the request that it stands for. -/
theorem Message.toOption_read {M : Model} (message : Message) :
    (message.read M).toOption = message.request? M := by
  cases message with
  | load text | delete text =>
    rw [read, request?, readOid]
    cases M.oidKind.ofText? text <;> rfl
  | save d =>
    rw [read, request?, readBody]
    cases ofJson M.Object d.json <;> rfl

/-- A message whose texts cannot be read is a bad request. -/
theorem Message.rejection_of_read {M : Model} {message : Message} {r : Rejection}
    (unread : message.read M = .error r) :
    ∃ requested oid reason, r = .make requested M.tag oid (.badRequest reason) := by
  cases message with
  | load text | delete text =>
    cases known : M.oidKind.ofText? text with
    | some oid =>
      rw [read, readOid, known] at unread
      cases unread
    | none =>
      rw [read, readOid, known] at unread
      cases unread
      exact ⟨_, _, _, rfl⟩
  | save d =>
    cases decoded : ofJson M.Object d.json with
    | ok m =>
      rw [read, readBody, decoded] at unread
      cases unread
    | error fault =>
      rw [read, readBody, decoded] at unread
      cases unread
      exact ⟨_, _, _, rfl⟩

namespace Service

variable {M : Model} {σ : Type} {message : Message}

/-- A message that stands for a request is answered as the request is served. -/
theorem answerMessage_of_request {request : Request M} (read : message.request? M = some request)
    (s : Service M σ) (caller : Caller) (moment : Moment) :
    s.answerMessage caller moment message =
      (do return (← s.serve caller moment request).toDocument) := by
  cases message with
  | load text | delete text =>
    obtain ⟨oid, known, rfl⟩ := Option.map_eq_some_iff.mp read
    simp only [answerMessage, loadJson, deleteJson, withOid, known]
    rfl
  | save d =>
    obtain ⟨m, known, rfl⟩ := Option.map_eq_some_iff.mp read
    cases decoded : ofJson M.Object d.json with
    | error fault =>
      rw [decoded] at known
      cases known
    | ok n =>
      rw [decoded] at known
      cases known
      simp only [answerMessage, saveJson, decoded]
      rfl

/-- A message whose texts cannot be read is answered by its rejection, and the state stays. -/
theorem run_answerMessage_of_unread {r : Rejection} (unread : message.read M = .error r)
    (s : Service M σ) (caller : Caller) (moment : Moment) (st : σ) :
    ∃ events, (s.answerMessage caller moment message).run st = ⟨.ok (.rejected r), st, events⟩ := by
  cases message with
  | load text | delete text =>
    simp only [answerMessage, loadJson, deleteJson, withOid]
    cases known : M.oidKind.ofText? text with
    | some oid =>
      rw [Message.read, readOid, known] at unread
      cases unread
    | none =>
      rw [Message.read, readOid, known] at unread
      cases unread
      exact ⟨_, rfl⟩
  | save d =>
    simp only [answerMessage, saveJson]
    cases decoded : ofJson M.Object d.json with
    | ok m =>
      rw [Message.read, readBody, decoded] at unread
      cases unread
    | error fault =>
      rw [Message.read, readBody, decoded] at unread
      cases unread
      exact ⟨_, rfl⟩

/-- A message that stands for no request is rejected as a bad one, and the state stays. -/
theorem run_answerMessage_of_none (unread : message.request? M = none) (s : Service M σ)
    (caller : Caller) (moment : Moment) (st : σ) :
    ∃ requested oid reason events, (s.answerMessage caller moment message).run st =
      ⟨.ok (.rejected (.make requested M.tag oid (.badRequest reason))), st, events⟩ := by
  rw [← Message.toOption_read] at unread
  cases read : message.read M with
  | ok request =>
    rw [read] at unread
    cases unread
  | error r =>
    obtain ⟨requested, oid, reason, rfl⟩ := Message.rejection_of_read read
    obtain ⟨events, run⟩ := run_answerMessage_of_unread read s caller moment st
    exact ⟨requested, oid, reason, events, run⟩

/-- What is shown is the document of what was done. -/
theorem Reply.done_of_toDocument {α : Type} [Coded α] {r : Reply α} {success : Success Document}
    (shown : r.toDocument = .ok (.done success)) :
    ∃ served, r = .ok (.done served) ∧
      success = ⟨served.requested, served.performed, VersionedStore.toDocument served.object⟩ := by
  match r with
  | .error _ | .ok (.rejected _) => cases shown
  | .ok (.done served) => exact ⟨served, rfl, (Answer.done.inj (Except.ok.inj shown)).symm⟩

/-- Answering a message ends as the request that it stands for is served, or in a rejection that
leaves the state alone if it stands for none. -/
theorem ends_answerMessage {s : Service M σ} {caller : Caller} {moment : Moment} {st : σ}
    {P : σ → Reply Document → Prop}
    (served : ∀ request, message.request? M = some request →
      (s.serve caller moment request).Ends st fun t reply ↦ P t reply.toDocument)
    (unread : ∀ r, P st (.ok (.rejected r))) :
    (s.answerMessage caller moment message).Ends st P := by
  cases read : message.request? M with
  | some request =>
    rw [answerMessage_of_request read]
    exact .map (served request read)
  | none =>
    obtain ⟨requested, oid, reason, events, run⟩ :=
      run_answerMessage_of_none read s caller moment st
    rw [Action.Ends, run]
    exact unread _

end Service

namespace Registry

/-- Send a message to the service under a tag. -/
def send (tag : String) (caller : Caller) (moment : Moment) :
    Message → Registry → RegistryOutcome (Answer Document)
  | .load oid => loadJson tag caller oid
  | .save d => saveJson tag caller moment d
  | .delete oid => deleteJson tag caller oid

/-- What was put under a tag is registered there. -/
theorem get?_put_self (tag : String) (registration : Registration) (r : Registry) :
    (r.put tag registration).get? tag = some registration :=
  Dictionary.get?_insert_self tag registration r.registrations

/-- What is put under one tag leaves what is registered under the others. -/
theorem get?_put_ne {tag other : String} (h : other ≠ tag) (registration : Registration)
    (r : Registry) : (r.put tag registration).get? other = r.get? other :=
  Dictionary.get?_insert_ne h registration r.registrations

/-- A message that is sent is answered by the registered service, whose state is kept. -/
theorem send_of_registered {r : Registry} {tag : String} {registration : Registration}
    (registered : r.get? tag = some registration) (caller : Caller) (moment : Moment)
    (message : Message) :
    let o := (registration.service.answerMessage caller moment message).run registration.state
    send tag caller moment message r =
      ⟨o.value, r.put tag { registration with state := o.state }, o.events⟩ := by
  cases message <;> simp only [send, loadJson, saveJson, deleteJson, step, registered] <;> rfl

end Registry

end VersionedStore
