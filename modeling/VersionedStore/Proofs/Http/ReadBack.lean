import VersionedStore.Http.Response
import VersionedStore.Proofs.Memory.Content
import VersionedStore.Proofs.Schema.Text
import VersionedStore.Proofs.Service.Effect

/-!
# Answers read back from their responses

A response does not tell what was performed, nor whom a rejection is about. It need not: services,
and responses themselves, only give answers in which the request and the status decide what was
performed and in which no OID is empty. Such an answer comes back from its response, but for the
reason of a server error, which names the status then.
-/

namespace VersionedStore

open Crud

namespace Http

variable {α : Type}

/-- What was performed is what a response to the request can tell, and no OID is empty. -/
inductive Tellable : Answer α → Prop where
  | done {s : Success α} (h : s.performed ∈ [.created, .notModified, s.requested.served]) :
    Tellable (.done s)
  | rejected {r : Rejection} (h : r.oid ≠ some "") : Tellable (.rejected r)

/-- The reason of a server error behind the status it was sent under. -/
def retoldReason (reason : String) : String :=
  if reason.isEmpty then "unexpected status 500" else "status 500: " ++ reason

/-- What the asking side makes of an answer: the reason of a server error names its status. -/
def retold : Answer α → Answer α
  | .rejected ⟨requested, tag, oid, .serverError reason⟩ =>
    .rejected ⟨requested, tag, oid, .serverError (retoldReason reason)⟩
  | a => a

private theorem tellable_make (requested : Requested) (tag : String) (oid : Option String)
    (reason : Reason) : Tellable (.rejected (.make requested tag oid reason) : Answer α) :=
  .rejected fun empty ↦ absurd rfl (of_decide_eq_true (Option.filter_eq_some_iff.mp empty).2)

private theorem tellable_served (requested : Requested) (a : α) :
    Tellable (.done ⟨requested, requested.served, a⟩) :=
  .done (by simp)

private theorem tellable_created (requested : Requested) (a : α) : Tellable
    (.created requested a) :=
  .done (by simp)

private theorem tellable_notModified (requested : Requested) (a : α) :
    Tellable (.notModified requested a) :=
  .done (by simp)

private theorem make_of_ne {r : Rejection} (h : r.oid ≠ some "") (reason : Reason) :
    Rejection.make r.requested r.tag r.oid reason = { r with reason } := by
  have kept : r.oid.filter (fun o ↦ o ≠ "") = r.oid := by
    cases there : r.oid with
    | none => rfl
    | some o =>
      have solid : o ≠ "" := fun empty ↦ h (there.trans (congrArg some empty))
      exact Option.filter_some_pos (decide_eq_true solid)
  rw [Rejection.make, kept]

private theorem mem_of_performedBy {requested : Requested} {status : Status} {performed : Performed}
    (h : performedBy requested status = some performed) :
    performed ∈ [.created, .notModified, requested.served] := by
  cases status <;> cases h <;> simp

variable [Coded α]

private theorem tellable_toAnswer (requested : Requested) (tag : String) (oid : Option String)
    (r : Response) : Tellable (r.toAnswer requested tag oid : Answer α) := by
  unfold Response.toAnswer
  cases told : (Status.ofCode? r.status).bind (performedBy requested) with
  | none => exact tellable_make ..
  | some performed =>
    obtain ⟨status, -, performs⟩ := Option.bind_eq_some_iff.mp told
    simp only
    split
    · exact .done (mem_of_performedBy performs)
    · exact tellable_make ..

end Http

namespace Service

open Http (Tellable tellable_make tellable_served tellable_created tellable_notModified)

variable {M : Model} {σ : Type} {service : Service M σ}

/-- The answer of a reply can be told by its response, if there is one. -/
def TellableReply : Reply M.Object → Prop
  | .ok answer => Tellable answer
  | .error _ => True

private theorem tells_answerFailure (requested : Requested) (text : String) (failure : Failure)
    (s : σ) :
    (answerFailure M requested text failure).Ends s fun _ ↦ Tellable := by
  cases failure <;> exact tellable_make (α := M.Object) _ _ _ _

private theorem tells_insert (caller : Caller) (now : Instant) (requested : Requested)
    (m : M.Object)
    (s : σ) : (service.insert caller now requested m).Ends s fun _ ↦ Tellable := by
  refine .bind_run ?_
  split
  · exact tellable_created ..
  · exact tells_answerFailure ..

private theorem tells_createAt (caller : Caller) (now : Instant) (oid : M.Oid) (m : M.Object)
    (s : σ) :
    (service.createAt caller now oid m).Ends s fun _ ↦ Tellable := by
  refine .bind_run ?_
  split
  · exact tells_answerFailure ..
  · exact tellable_make ..
  · split
    · exact tells_insert ..
    · exact tellable_make ..

private theorem tells_replace (caller : Caller) (now : Instant) (oid : M.Oid) (m : M.Object)
    (s : σ) :
    (service.replace caller now oid m).Ends s fun _ ↦ Tellable := by
  refine .bind_run ?_
  split
  · exact tellable_served ..
  · exact tellable_notModified ..
  · exact tells_answerFailure ..

private theorem tells_updateAt (caller : Caller) (now : Instant) (oid : M.Oid) (m : M.Object)
    (s : σ) :
    (service.updateAt caller now oid m).Ends s fun _ ↦ Tellable := by
  unfold updateAt
  simp only
  split
  · refine .bind_run ?_
    split
    · exact tells_answerFailure ..
    · exact tells_replace ..
    · refine .ite (fun _ ↦ ?_) fun _ ↦ tellable_make ..
      exact .bind_run (tells_insert ..)
  · exact tellable_make ..

private theorem tells_create (caller : Caller) (moment : Moment) (m : M.Object) (s : σ) :
    (service.create caller moment m).Ends s fun _ ↦ TellableReply := by
  refine .ite (fun _ ↦ trivial) fun _ ↦ .ite (fun _ ↦ tellable_make ..) fun _ ↦ ?_
  cases m.oid with
  | some oid => exact tells_createAt ..
  | none =>
    refine .ite (fun _ ↦ tellable_make ..) fun _ ↦ .bind_run ?_
    exact tells_createAt ..

private theorem tells_update (caller : Caller) (now : Instant) (m : M.Object) (s : σ) :
    (service.update caller now m).Ends s fun _ ↦ TellableReply := by
  unfold update
  cases m.oid with
  | none => exact trivial
  | some oid =>
    refine .ite (fun _ ↦ trivial) fun _ ↦ .ite (fun _ ↦ tellable_make ..) fun _ ↦ ?_
    exact tells_updateAt ..

private theorem tells_delete (caller : Caller) (oid : M.Oid) (s : σ) :
    (service.delete caller oid).Ends s fun _ ↦ TellableReply := by
  refine .ite (fun _ ↦ tellable_make ..) fun _ ↦ .bind_run ?_
  split
  · exact tellable_served ..
  · exact tellable_make ..
  · exact tells_answerFailure ..

private theorem tells_load (caller : Caller) (oid : M.Oid) (s : σ) :
    (service.load caller oid).Ends s fun _ ↦ TellableReply := by
  refine .bind_run ?_
  split
  · exact tellable_served ..
  · exact tellable_make ..
  · exact tells_answerFailure ..

/-- The reply to any request is tellable, whatever the store does. -/
theorem tells_serve (caller : Caller) (moment : Moment) (request : Request M) (s : σ) :
    (service.serve caller moment request).Ends s fun _ ↦ TellableReply := by
  cases request with
  | load oid => exact tells_load ..
  | create m => exact tells_create ..
  | update m => exact tells_update ..
  | delete oid => exact tells_delete ..
  | save m => exact .ite (fun _ ↦ tells_create ..) fun _ ↦ tells_update ..

end Service

namespace Http

/-- An answer that a service gives, or that a response to a request is read as. -/
inductive Arises {M : Model} : Answer M.Object → Prop where
  | served {σ : Type} {service : Service M σ} {caller : Caller} {moment : Moment}
    {request : Service.Request M} {s : σ} {answer : Answer M.Object}
    (h : ((service.serve caller moment request).run s).value = .ok answer) : Arises answer
  | read (requested : Requested) (tag : String) (oid : Option String) (r : Response) :
    Arises (r.toAnswer requested tag oid)

private theorem Arises.tellable {M : Model} {answer : Answer M.Object} (h : Arises answer) :
    Tellable answer := by
  cases h with
  | read requested tag oid r => exact tellable_toAnswer requested tag oid r
  | @served σ service caller moment request s answer h =>
    have tells : (service.serve caller moment request).Ends s fun _ ↦ Service.TellableReply :=
      Service.tells_serve caller moment request s
    rw [Action.Ends, h] at tells
    exact tells

private theorem readable_violation (v : Violation) (room : Nat) :
    Json.Readable (room + 2) (toJson v) := by
  obtain ⟨_ | field, message⟩ := v
  · exact ⟨rfl, Nat.le_add_left ..⟩
  · exact ⟨rfl, Nat.le_add_left ..⟩

private theorem violationsOf_jsonText (violations : List Violation) :
    violationsOf (jsonText violations) = violations := by
  have readable : Json.Readable depthLimit (toJson violations) := by
    apply Json.readable_arr
    intro w hw
    obtain ⟨v, hv, rfl⟩ := List.mem_map.mp hw
    obtain ⟨violation, -, rfl⟩ := List.mem_map.mp hv
    exact readable_violation violation _
  have read := ofJsonText_jsonText rfl readable
  rw [violationsOf, read]

/-- A response is read as an object that was served when its body reads as the object. -/
theorem toAnswer_of_performed {α : Type} [Coded α] {requested : Requested} {status : Status}
    {performed : Performed} (performs : performedBy requested status = some performed)
    {body : String} {object : α} (read : ofJsonText α body = .ok object) (tag : String)
    (oid : Option String) :
    (Response.mk status.code body).toAnswer requested tag oid =
      .done ⟨requested, performed, object⟩ := by
  have told : (Status.ofCode? status.code).bind (performedBy requested) = some performed := by
    rw [Status.ofCode?_code]
    exact performs
  simp only [Response.toAnswer, told, read]

private theorem toAnswer_of_rejected {α : Type} [Coded α] {e : Rejection}
    (named : e.oid ≠ some "") :
    (Response.ofAnswer (.rejected e : Answer α)).toAnswer e.requested e.tag e.oid =
      (.rejected { e with reason := (Response.ofAnswer (.rejected e : Answer α)).reason } :
        Answer α) := by
  have told : (Status.ofCode? (Status.ofReason e.reason).code).bind (performedBy e.requested) =
      none := by
    rw [Status.ofCode?_code]
    cases e.reason <;> rfl
  simp only [Response.toAnswer, Response.ofAnswer, Status.ofAnswer, told, make_of_ne named]

private theorem retold_rejected {α : Type} [Coded α] (e : Rejection) :
    (.rejected { e with reason := (Response.ofAnswer (.rejected e : Answer α)).reason } :
      Answer α) = retold (.rejected e) := by
  obtain ⟨requested, tag, oid, reason⟩ := e
  cases reason with
  | badRequest reason => rfl
  | notFound => rfl
  | invalid violations =>
    have back : (Response.mk 422 (jsonText violations)).reason = .invalid violations :=
      congrArg Reason.invalid (violationsOf_jsonText violations)
    exact congrArg (fun reason ↦ Answer.rejected ⟨requested, tag, oid, reason⟩) back
  | serverError reason =>
    have empty : "unexpected status " ++ Text.Decimal.ofNat 500 = "unexpected status 500" := by
      decide +kernel
    have solid : "status " ++ Text.Decimal.ofNat 500 ++ ": " = "status 500: " := by
      decide +kernel
    have back : (Response.mk 500 reason).reason = .serverError (retoldReason reason) := by
      rw [retoldReason, ← empty, ← solid]
      rfl
    exact congrArg (fun reason ↦ Answer.rejected ⟨requested, tag, oid, reason⟩) back

/-- Every answer that arises is read back from its response to the same request, given whom it is
about when it is a rejection, but that a server error names the status then: as long as the object
of a success has no doubles in its JSON and is nested no deeper than JSON is read. -/
theorem toAnswer_ofAnswer {M : Model} {answer : Answer M.Object} (arises : Arises answer)
    (readable : ∀ object ∈ answer.object, Json.Readable depthLimit (toJson object))
    {tag : String} {oid : Option String}
    (about : ∀ e ∈ answer.rejection, tag = e.tag ∧ oid = e.oid) :
    (Response.ofAnswer answer).toAnswer answer.requested tag oid = retold answer := by
  cases arises.tellable with
  | @done s performs =>
    exact toAnswer_of_performed (performedBy_ofPerformed performs)
      (ofJsonText_jsonText M.faithful_schema (readable s.object rfl)) tag oid
  | @rejected e named =>
    obtain ⟨rfl, rfl⟩ := about e rfl
    exact (toAnswer_of_rejected named).trans (retold_rejected e)

/-- A note that a service loads is read back by whoever asked for it. -/
theorem toAnswer_ofAnswer_note : Arises (Answer.loaded Memory.keptNote) ∧
    Json.Readable depthLimit (toJson Memory.keptNote) ∧
    (Response.ofAnswer (Answer.loaded Memory.keptNote)).toAnswer .load "note" (some "a") =
      Answer.loaded Memory.keptNote := by
  have loads : (((Service.inMemory Catalogue.note .standard fun _ ↦ []).serve .anonymous
      ⟨.epoch, ⟨List.replicate 32 0, by decide⟩⟩ (.load "a")).run Memory.noteShelf).value =
        .ok (.loaded Memory.keptNote) := rfl
  have arises : Arises (Answer.loaded Memory.keptNote) := .served loads
  have readable : Json.Readable depthLimit (toJson Memory.keptNote) := ⟨by decide, by decide⟩
  refine ⟨arises, readable, toAnswer_ofAnswer arises ?_ ?_⟩
  · rintro _ ⟨⟩
    exact readable
  · exact fun _ h ↦ nomatch h

end Http

end VersionedStore
