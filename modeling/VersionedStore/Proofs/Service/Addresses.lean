import VersionedStore.Proofs.Service.Transition
import VersionedStore.Proofs.Store.Addresses

/-!
# Services answer with the object of the OID

A service over a store that gives objects under their own OIDs answers every request with an object
that has the OID of the request, if with any, and leaves the store so that it goes on to.
-/

namespace VersionedStore

open Crud

namespace Service

variable {M : Model} {σ : Type} {good : σ → Prop} {s : Service M σ} {st : σ} {oid : M.Oid}
  {m : M.Object}

/-- The state is good, and the object of an answer has this OID. -/
def Points (good : σ → Prop) (oid : M.Oid) (st : σ) (answer : Answer M.Object) : Prop :=
  good st ∧ ∀ success, answer = .done success → success.object.oid = some oid

/-- The state is good, and the object of a reply has this OID. -/
def PointsReply (good : σ → Prop) (oid : M.Oid) (st : σ) (reply : Reply M.Object) : Prop :=
  good st ∧ ∀ success, reply = .ok (.done success) → success.object.oid = some oid

private theorem points_rejected (kept : good st) (r : Rejection) : Points good oid st
    (.rejected r) :=
  ⟨kept, fun _ h ↦ nomatch h⟩

private theorem points_done (kept : good st) {success : Success M.Object}
    (own : success.object.oid = some oid) : Points good oid st (.done success) := by
  refine ⟨kept, ?_⟩
  rintro _ ⟨⟩
  exact own

/-- A reply that is an answer points where the answer does. -/
theorem Points.reply {answer : Answer M.Object} (h : Points good oid st answer) :
    PointsReply good oid st (.ok answer) :=
  ⟨h.1, fun success same ↦ h.2 success (Except.ok.inj same)⟩

private theorem pointsReply_error (kept : good st) (e : ServiceError) :
    PointsReply good oid st (.error e) :=
  ⟨kept, fun _ h ↦ nomatch h⟩

private theorem points_answerFailure (kept : good st) (requested : Requested) (text : String)
    (failure : Failure) :
    (answerFailure M requested text failure).Ends st (Points good oid) := by
  cases failure <;> exact points_rejected kept _

private theorem points_insert (h : s.store.Addresses good) (kept : good st) (own : m.oid = some oid)
    (caller : Caller) (now : Instant) (requested : Requested) :
    (s.insert caller now requested m).Ends st (Points good oid) := by
  refine .andThen (h.persist _ st kept) fun t stored given ↦ ?_
  cases stored with
  | ok stored => exact points_done given.1 ((given.2 stored rfl).trans own)
  | error failure => exact points_answerFailure given.1 _ _ failure

private theorem points_createAt (h : s.store.Addresses good) (kept : good st)
    (own : m.oid = some oid)
    (caller : Caller) (now : Instant) :
    (s.createAt caller now oid m).Ends st (Points good oid) := by
  refine .andThen (h.contains oid st kept) fun t there kept ↦ ?_
  match there with
  | .error failure => exact points_answerFailure kept _ _ failure
  | .ok true => exact points_rejected kept _
  | .ok false =>
    simp only
    cases s.validate m with
    | nil => exact points_insert h kept own caller now .create
    | cons violation more => exact points_rejected kept _

private theorem points_create (h : s.store.Addresses good) (kept : good st) (caller : Caller)
    (moment : Moment) (m : M.Object) :
    (s.create caller moment m).Ends st
      (PointsReply good (m.oid.getD (M.oidKind.generate moment.fresh))) := by
  refine .ite (fun _ ↦ pointsReply_error kept _) fun _ ↦
    .ite (fun _ ↦ (points_rejected kept _).reply) fun _ ↦ ?_
  cases own : m.oid with
  | some oid => exact .map (points_createAt h kept own caller moment.now).reply
  | none =>
    refine .ite (fun _ ↦ (points_rejected kept _).reply) fun _ ↦ .bind (Action.run_report _ st) ?_
    exact .map (points_createAt h kept rfl caller moment.now).reply

private theorem points_replace (h : s.store.Addresses good) (kept : good st)
    (own : m.oid = some oid)
    (caller : Caller) (now : Instant) :
    (s.replace caller now oid m).Ends st (Points good oid) := by
  refine .andThen (h.merge _ st kept) fun t merged given ↦ ?_
  match merged with
  | .ok (.updated stored) => exact points_done given.1 ((given.2 _ rfl).trans own)
  | .ok (.notModified stored) => exact points_done given.1 ((given.2 _ rfl).trans own)
  | .error failure => exact points_answerFailure given.1 _ _ failure

private theorem points_updateAt (h : s.store.Addresses good) (kept : good st)
    (own : m.oid = some oid)
    (caller : Caller) (now : Instant) :
    (s.updateAt caller now oid m).Ends st (Points good oid) := by
  simp only [updateAt]
  cases s.validate m with
  | cons violation more => exact points_rejected kept _
  | nil =>
    refine .andThen (h.contains oid st kept) fun t there kept ↦ ?_
    cases there with
    | error failure => exact points_answerFailure kept _ _ failure
    | ok found =>
      cases found with
      | true => exact points_replace h kept own caller now
      | false =>
        refine .ite (fun _ ↦ ?_) fun _ ↦ points_rejected kept _
        exact .bind (Action.run_report _ t) (points_insert h kept own caller now .update)

private theorem points_update (h : s.store.Addresses good) (kept : good st) (caller : Caller)
    (moment : Moment) (m : M.Object) :
    (s.update caller moment.now m).Ends st
      (PointsReply good (m.oid.getD (M.oidKind.generate moment.fresh))) := by
  simp only [update]
  cases own : m.oid with
  | none => exact pointsReply_error kept _
  | some oid =>
    refine .ite (fun _ ↦ pointsReply_error kept _) fun _ ↦
      .ite (fun _ ↦ (points_rejected kept _).reply) fun _ ↦ ?_
    exact .map (points_updateAt h kept own caller moment.now).reply

private theorem points_delete (h : s.store.Addresses good) (kept : good st) (caller : Caller)
    (oid : M.Oid) : (s.delete caller oid).Ends st (PointsReply good oid) := by
  refine .ite (fun _ ↦ (points_rejected kept _).reply) fun _ ↦ ?_
  refine .andThen (h.remove oid st kept) fun t removed given ↦ ?_
  match removed with
  | .ok (some m) => exact (points_done given.1 (given.2 m rfl)).reply
  | .ok none => exact (points_rejected given.1 _).reply
  | .error failure => exact .map (points_answerFailure given.1 _ _ failure).reply

private theorem points_load (h : s.store.Addresses good) (kept : good st) (caller : Caller)
    (oid : M.Oid) : (s.load caller oid).Ends st (PointsReply good oid) := by
  refine .andThen (h.find oid st kept) fun t found given ↦ ?_
  match found with
  | .ok (some m) => exact (points_done given.1 (given.2 m rfl)).reply
  | .ok none => exact (points_rejected given.1 _).reply
  | .error failure =>
    exact .andThen (points_answerFailure given.1 _ _ failure) fun _ _ points ↦ points.reply

/-- Every request is answered with an object of its OID, if with any. -/
theorem points_serve (h : s.store.Addresses good) (kept : good st) (caller : Caller)
    (moment : Moment) (request : Request M) :
    (s.serve caller moment request).Ends st (PointsReply good (request.oid moment)) := by
  cases request with
  | load oid => exact points_load h kept caller oid
  | create m => exact points_create h kept caller moment m
  | update m => exact points_update h kept caller moment m
  | save m =>
    exact .ite (fun _ ↦ points_create h kept caller moment m)
      fun _ ↦ points_update h kept caller moment m
  | delete oid => exact points_delete h kept caller oid

/-- Listing all objects leaves the store so that it goes on to give objects under their OIDs. -/
theorem keeps_loadAll (h : s.store.Addresses good) (kept : good st) (caller : Caller) :
    (s.loadAll caller).Ends st fun t _ ↦ good t := by
  refine .andThen (h.findAll st kept) fun t listed kept ↦ ?_
  cases listed <;> exact kept

end Service

end VersionedStore
