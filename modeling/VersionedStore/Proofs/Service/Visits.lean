import VersionedStore.Proofs.Service.Effect
import VersionedStore.Proofs.Store.Record

/-!
# Visits to services

A visit asks one of any number of services that share a store: a request about one object, or for
all objects. `attend` answers visits one after the other. Services over stores that mirror each
other answer alike, so keeping a record of the store does not change what is answered.
-/

namespace VersionedStore

open Crud
open Crud.Action (Mirrors mirrors_pure mirrors_report)

namespace Service

variable {M : Model} {σ τ : Type}

/-- What a service is asked: to serve a request, or for all objects. -/
inductive Task (M : Model) where
  | serve (request : Request M)
  | loadAll

/-- A task for a service with these settings and rules, at a moment. -/
structure Visit (M : Model) where
  settings : Settings
  validate : M.Object → List Violation
  caller : Caller
  moment : Moment
  task : Task M

/-- What a visit is given. -/
inductive Given (M : Model) where
  | reply (reply : Reply M.Object)
  | listing (all : Except ServiceError (List M.Object))

/-- Answer a visit out of a store. -/
def Visit.answer (store : Store M σ) (v : Visit M) : Action σ (Given M) :=
  let service : Service M σ := ⟨store, v.settings, v.validate⟩
  match v.task with
  | .serve request => return .reply (← service.serve v.caller v.moment request)
  | .loadAll => return .listing (← service.loadAll v.caller)

/-- Answer visits one after the other. -/
def attend (store : Store M σ) : List (Visit M) → Action σ (List (Given M))
  | [] => return []
  | v :: visits => do
    let given ← v.answer store
    let others ← attend store visits
    return given :: others

variable {part : τ → σ} {whole : Store M τ} {store : Store M σ} {settings : Settings}
  {validate : M.Object → List Violation}

private theorem mirrors_answerFailure (part : τ → σ) (requested : Requested) (oid : String)
    (failure : Failure) : Mirrors part (answerFailure M requested oid failure)
      (answerFailure M requested oid failure) := by
  cases failure <;> exact fun _ ↦ rfl

private theorem mirrors_insert (h : whole.Mirrors part store) (caller : Caller) (now : Instant)
    (requested : Requested) (m : M.Object) :
    Mirrors part ((Service.mk whole settings validate).insert caller now requested m)
      ((Service.mk store settings validate).insert caller now requested m) := by
  refine .bind (h.persist _) fun stored ↦ ?_
  cases stored with
  | ok stored => exact fun _ ↦ rfl
  | error failure => exact mirrors_answerFailure part _ _ failure

private theorem mirrors_createAt (h : whole.Mirrors part store) (caller : Caller) (now : Instant)
    (oid : M.Oid) (m : M.Object) :
    Mirrors part ((Service.mk whole settings validate).createAt caller now oid m)
      ((Service.mk store settings validate).createAt caller now oid m) := by
  refine .bind (h.contains oid) fun there ↦ ?_
  match there with
  | .error failure => exact mirrors_answerFailure part _ _ failure
  | .ok true => exact fun _ ↦ rfl
  | .ok false =>
    simp only
    cases validate m with
    | nil => exact mirrors_insert h caller now .create m
    | cons violation more => exact fun _ ↦ rfl

private theorem mirrors_create (h : whole.Mirrors part store) (caller : Caller) (moment : Moment)
    (m : M.Object) :
    Mirrors part ((Service.mk whole settings validate).create caller moment m)
      ((Service.mk store settings validate).create caller moment m) := by
  refine .ite (mirrors_pure part _) <| .ite (fun _ ↦ rfl) ?_
  cases m.oid with
  | some oid => exact .bind (mirrors_createAt h caller moment.now oid m) fun _ ↦ fun _ ↦ rfl
  | none =>
    refine .ite (fun _ ↦ rfl) <| .bind (mirrors_report part _) fun _ ↦ ?_
    exact .bind (mirrors_createAt h caller moment.now _ _) fun _ ↦ fun _ ↦ rfl

private theorem mirrors_replace (h : whole.Mirrors part store) (caller : Caller) (now : Instant)
    (oid : M.Oid) (m : M.Object) :
    Mirrors part ((Service.mk whole settings validate).replace caller now oid m)
      ((Service.mk store settings validate).replace caller now oid m) := by
  refine .bind (h.merge _) fun merged ↦ ?_
  match merged with
  | .ok (.updated _) | .ok (.notModified _) => exact fun _ ↦ rfl
  | .error failure => exact mirrors_answerFailure part _ _ failure

private theorem mirrors_updateAt (h : whole.Mirrors part store) (caller : Caller) (now : Instant)
    (oid : M.Oid) (m : M.Object) :
    Mirrors part ((Service.mk whole settings validate).updateAt caller now oid m)
      ((Service.mk store settings validate).updateAt caller now oid m) := by
  simp only [updateAt]
  cases validate m with
  | cons violation more => exact fun _ ↦ rfl
  | nil =>
    refine .bind (h.contains oid) fun there ↦ ?_
    cases there with
    | error failure => exact mirrors_answerFailure part _ _ failure
    | ok there =>
      cases there with
      | true => exact mirrors_replace h caller now oid m
      | false =>
        refine .ite ?_ fun _ ↦ rfl
        exact .bind (mirrors_report part _) fun _ ↦ mirrors_insert h caller now .update m

private theorem mirrors_update (h : whole.Mirrors part store) (caller : Caller) (now : Instant)
    (m : M.Object) :
    Mirrors part ((Service.mk whole settings validate).update caller now m)
      ((Service.mk store settings validate).update caller now m) := by
  simp only [update]
  cases m.oid with
  | none => exact fun _ ↦ rfl
  | some oid =>
    refine .ite (mirrors_pure part _) <| .ite (fun _ ↦ rfl) ?_
    exact .bind (mirrors_updateAt h caller now oid m) fun _ ↦ fun _ ↦ rfl

private theorem mirrors_delete (h : whole.Mirrors part store) (caller : Caller) (oid : M.Oid) :
    Mirrors part ((Service.mk whole settings validate).delete caller oid)
      ((Service.mk store settings validate).delete caller oid) := by
  refine .ite (fun _ ↦ rfl) <| .bind (h.remove oid) fun removed ↦ ?_
  match removed with
  | .ok (some _) | .ok none => exact fun _ ↦ rfl
  | .error failure => exact .bind (mirrors_answerFailure part _ _ failure) fun _ ↦ fun _ ↦ rfl

private theorem mirrors_load (h : whole.Mirrors part store) (caller : Caller) (oid : M.Oid) :
    Mirrors part ((Service.mk whole settings validate).load caller oid)
      ((Service.mk store settings validate).load caller oid) := by
  refine .bind (h.find oid) fun found ↦ ?_
  match found with
  | .ok (some _) | .ok none => exact fun _ ↦ rfl
  | .error failure => exact .bind (mirrors_answerFailure part _ _ failure) fun _ ↦ fun _ ↦ rfl

private theorem mirrors_loadAll (h : whole.Mirrors part store) (caller : Caller) :
    Mirrors part ((Service.mk whole settings validate).loadAll caller)
      ((Service.mk store settings validate).loadAll caller) := by
  refine .bind h.findAll fun listed ↦ ?_
  cases listed <;> exact fun _ ↦ rfl

/-- Serving a request mirrors serving it out of the other store. -/
theorem mirrors_serve (h : whole.Mirrors part store) (caller : Caller) (moment : Moment)
    (request : Request M) :
    Mirrors part ((Service.mk whole settings validate).serve caller moment request)
      ((Service.mk store settings validate).serve caller moment request) := by
  cases request with
  | load oid => exact mirrors_load h caller oid
  | create m => exact mirrors_create h caller moment m
  | update m => exact mirrors_update h caller moment.now m
  | save m => exact .ite (mirrors_create h caller moment m) (mirrors_update h caller moment.now m)
  | delete oid => exact mirrors_delete h caller oid

/-- Answering a visit mirrors answering it out of the other store. -/
theorem mirrors_answer (h : whole.Mirrors part store) (v : Visit M) :
    Mirrors part (v.answer whole) (v.answer store) := by
  obtain ⟨settings, validate, caller, moment, task⟩ := v
  cases task with
  | serve request => exact .bind (mirrors_serve h caller moment request) fun _ ↦ fun _ ↦ rfl
  | loadAll => exact .bind (mirrors_loadAll h caller) fun _ ↦ fun _ ↦ rfl

/-- Answering visits mirrors answering them out of the other store. -/
theorem mirrors_attend (h : whole.Mirrors part store) (visits : List (Visit M)) :
    Mirrors part (attend whole visits) (attend store visits) := by
  induction visits with
  | nil => exact mirrors_pure part _
  | cons v visits ih =>
    exact .bind (mirrors_answer h v) fun given ↦ .bind ih fun others ↦ mirrors_pure part _

end Service

end VersionedStore
