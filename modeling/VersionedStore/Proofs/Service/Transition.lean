import VersionedStore.Proofs.Memory.Invariant
import VersionedStore.Service.Basic

/-!
# What serving a request does

`Serves` says once what a service over the store in memory can do with a request: what it replies,
the store that it leaves, and what it has made sure of before. Every function of the service is run
once to show that nothing else can happen. What is claimed of services is read off these cases.
-/

namespace VersionedStore

open Crud

/-- The violations for which a request is rejected. -/
def Crud.Reason.violations? : Reason → Option (List Violation)
  | .invalid violations => some violations
  | .badRequest _ | .notFound | .serverError _ => none

namespace Model.Object

variable {M : Model}

/-- The object with an OID: its own, or the one that is made of a fresh UUID. -/
def identified (m : M.Object) (fresh : Uuid) : M.Object :=
  { m with oid := some (m.oid.getD (M.oidKind.generate fresh)) }

/-- What is handed to the store to take in an object for a caller. -/
def stampedNew (m : M.Object) (caller : Caller) (now : Instant) : M.Object :=
  { m with version := .unsaved, tracking := m.tracking.stampCreated caller.user now }

/-- What is handed to the store to change an object for a caller. -/
def stampedChanged (m : M.Object) (caller : Caller) (now : Instant) : M.Object :=
  { m with tracking := m.tracking.stampUpdated caller.user now }

/-- An object that has an OID keeps it. -/
theorem identified_of_oid {m : M.Object} {oid : M.Oid} (own : m.oid = some oid) (fresh : Uuid) :
    m.identified fresh = m := by
  rw [identified, own, Option.getD_some, ← own]

/-- An object without OID gets one. -/
theorem identified_of_none {m : M.Object} (none : m.oid = none) (fresh : Uuid) :
    m.identified fresh = { m with oid := some (M.oidKind.generate fresh) } := by
  rw [identified, none, Option.getD_none]

/-- The text of an object's OID. -/
theorem oidText_of_oid {m : M.Object} {oid : M.Oid} (own : m.oid = some oid) :
    m.oidText = M.oidKind.textOf oid := by
  rw [oidText, own]
  rfl

end Model.Object

namespace Memory

variable {M : Model}

/-- Taking out an OID that is no key changes nothing. -/
theorem erase_of_get?_none {s : Memory M} {oid : M.Oid} (free : s.get? oid = none) :
    s.erase oid = s := by
  have kept : s.objects.filter (fun e ↦ e.1 ≠ oid) = s.objects := by
    apply List.filter_eq_self.mpr
    intro e he
    apply decide_eq_true
    rintro rfl
    exact get?_eq_none_iff.mp free (List.mem_map_of_mem he)
  rw [erase, kept]

end Memory

namespace Service

open Memory (Admits Consistent Meets Succeeds)

variable {M : Model}

/-- A service over the store in memory. -/
def inMemory (M : Model) (settings : Settings) (validate : M.Object → List Violation) :
    Service M (Memory M) :=
  ⟨Memory.store M, settings, validate⟩

/-- A request about one object. -/
inductive Request (M : Model) where
  | load (oid : M.Oid)
  | create (m : M.Object)
  | update (m : M.Object)
  | save (m : M.Object)
  | delete (oid : M.Oid)

/-- The OID that a request is about; for an object without one it is made from the moment. -/
def Request.oid (moment : Moment) : Request M → M.Oid
  | .load oid | .delete oid => oid
  | .create m | .update m | .save m => m.oid.getD (M.oidKind.generate moment.fresh)

/-- The object that a request submits, with the OID that the request is about. -/
def Request.submitted? (moment : Moment) : Request M → Option M.Object
  | .load _ | .delete _ => none
  | .create m | .update m | .save m => some (m.identified moment.fresh)

/-- Serve a request. -/
def serve {σ : Type} (s : Service M σ) (caller : Caller) (moment : Moment) :
    Request M → Action σ (Reply M.Object)
  | .load oid => s.load caller oid
  | .create m => s.create caller moment m
  | .update m => s.update caller moment.now m
  | .save m => s.save caller moment m
  | .delete oid => s.delete caller oid

/-- A submitted object has the OID that its request is about. -/
theorem Request.oid_of_submitted? {moment : Moment} {request : Request M} {m : M.Object}
    (sent : request.submitted? moment = some m) : m.oid = some (request.oid moment) := by
  cases request with
  | load | delete => cases sent
  | create | update | save =>
    cases sent
    rfl

/-- What serving a request does: the store that it leaves and its reply. -/
inductive Serves (validate : M.Object → List Violation) (caller : Caller) (moment : Moment)
    (s : Memory M) (request : Request M) : Memory M → Reply M.Object → Prop
  | refused (e : ServiceError) : Serves validate caller moment s request s (.error e)
  | rejected {r : Rejection} (other : r.reason.violations? = none) :
      Serves validate caller moment s request s (.ok (.rejected r))
  | invalid {m : M.Object} {r : Rejection} (sent : request.submitted? moment = some m)
      (broken : validate m ≠ []) (reason : r.reason = .invalid (validate m)) :
      Serves validate caller moment s request s (.ok (.rejected r))
  | loaded {m : M.Object} (there : s.get? (request.oid moment) = some m) :
      Serves validate caller moment s request s (.ok (.loaded m))
  | created {m : M.Object} (requested : Requested) (sent : request.submitted? moment = some m)
      (valid : validate m = [])
      (admits : Admits s (m.stampedNew caller moment.now) (request.oid moment)) :
      Serves validate caller moment s request
        (s.insert (request.oid moment) ((m.stampedNew caller moment.now).entering s.sequence.after))
        (.ok (.created requested ((m.stampedNew caller moment.now).entering s.sequence.after)))
  | notModified {m stored : M.Object} (sent : request.submitted? moment = some m)
      (valid : validate m = [])
      (meets : Meets s (m.stampedChanged caller moment.now) (request.oid moment) stored)
      (same : stored.sameContent (m.stampedChanged caller moment.now) = true) :
      Serves validate caller moment s request s (.ok (.notModified .update stored))
  | updated {m stored : M.Object} {version : Version}
      (sent : request.submitted? moment = some m) (valid : validate m = [])
      (succeeds :
        Succeeds s (m.stampedChanged caller moment.now) (request.oid moment) stored version) :
      Serves validate caller moment s request
        (s.replace (request.oid moment)
          ((m.stampedChanged caller moment.now).succeeding stored version))
        (.ok (.updated .update ((m.stampedChanged caller moment.now).succeeding stored version)))
  | deleted {m : M.Object} (there : s.get? (request.oid moment) = some m) :
      Serves validate caller moment s request (s.erase (request.oid moment)) (.ok (.deleted m))

section

variable {settings : Settings} {validate : M.Object → List Violation} {caller : Caller}
  {moment : Moment} {request : Request M} {m : M.Object}

private theorem serves_answerFailure (requested : Requested) (text : String) (failure : Failure)
    (s : Memory M) : (answerFailure M requested text failure).Ends s fun t answer ↦
      Serves validate caller moment s request t (.ok answer) := by
  cases failure <;> exact .rejected rfl

private theorem serves_insert (sent : request.submitted? moment = some m) (valid : validate m = [])
    (requested : Requested) (s : Memory M) :
    ((inMemory M settings validate).insert caller moment.now requested m).Ends s fun t answer ↦
      Serves validate caller moment s request t (.ok answer) := by
  obtain ⟨failure, -, h⟩ | ⟨oid, admits, h⟩ :=
    Memory.persist_cases (m.stampedNew caller moment.now) s
  · exact .bind h (serves_answerFailure requested _ failure s)
  · have own := Request.oid_of_submitted? sent
    obtain rfl : request.oid moment = oid := Option.some.inj (own.symm.trans admits.own)
    exact .bind h (.created requested sent valid admits)

private theorem serves_answerInvalid (sent : request.submitted? moment = some m)
    {violation : Violation}
    {more : List Violation} (broken : validate m = violation :: more) (requested : Requested)
    (s : Memory M) :
    (answerInvalid requested m (violation :: more)).Ends s fun t answer ↦
      Serves validate caller moment s request t (.ok answer) := by
  refine .invalid sent ?_ (congrArg Reason.invalid broken.symm)
  rw [broken]
  exact List.cons_ne_nil violation more

private theorem serves_createAt (sent : request.submitted? moment = some m) (oid : M.Oid)
    (s : Memory M) :
    ((inMemory M settings validate).createAt caller moment.now oid m).Ends s fun t answer ↦
      Serves validate caller moment s request t (.ok answer) := by
  refine .bind (Memory.run_contains oid s) ?_
  cases (s.get? oid).isSome with
  | true => exact .rejected rfl
  | false =>
    simp only [inMemory]
    cases valid : validate m with
    | nil => exact serves_insert sent valid .create s
    | cons violation more => exact serves_answerInvalid sent valid .create s

private theorem serves_replace (sent : request.submitted? moment = some m) (valid : validate m = [])
    (oid : M.Oid) (s : Memory M) :
    ((inMemory M settings validate).replace caller moment.now oid m).Ends s fun t answer ↦
      Serves validate caller moment s request t (.ok answer) := by
  have own := Request.oid_of_submitted? sent
  obtain ⟨failure, -, h⟩ | ⟨other, stored, meets, same, h⟩ |
      ⟨other, stored, version, succeeds, h⟩ :=
    Memory.merge_cases (m.stampedChanged caller moment.now) s
  · exact .bind h (serves_answerFailure _ _ failure s)
  · obtain rfl : request.oid moment = other := Option.some.inj (own.symm.trans meets.own)
    exact .bind h (.notModified sent valid meets same)
  · obtain rfl : request.oid moment = other := Option.some.inj (own.symm.trans succeeds.own)
    exact .bind h (.updated sent valid succeeds)

private theorem serves_updateAt (sent : request.submitted? moment = some m) (oid : M.Oid)
    (s : Memory M) :
    ((inMemory M settings validate).updateAt caller moment.now oid m).Ends s fun t answer ↦
      Serves validate caller moment s request t (.ok answer) := by
  simp only [updateAt, inMemory]
  cases valid : validate m with
  | cons violation more => exact serves_answerInvalid sent valid .update s
  | nil =>
    refine .bind (Memory.run_contains oid s) ?_
    cases (s.get? oid).isSome with
    | true => exact serves_replace sent valid oid s
    | false =>
      -- The settings may turn the update into a first store of the object.
      refine .ite (fun _ ↦ ?_) fun _ ↦ .rejected rfl
      exact .bind (Action.run_report _ s) (serves_insert sent valid .update s)

private theorem serves_create (sent : request.submitted? moment = some (m.identified moment.fresh))
    (s : Memory M) :
    ((inMemory M settings validate).create caller moment m).Ends s
      (Serves validate caller moment s request) := by
  refine .ite (fun _ ↦ .refused _) fun _ ↦ .ite (fun _ ↦ .rejected rfl) fun _ ↦ ?_
  cases own : m.oid with
  | some oid =>
    rw [Model.Object.identified_of_oid own] at sent
    exact serves_createAt sent oid s
  | none =>
    -- A generated OID is created under as if the object had come with it.
    rw [Model.Object.identified_of_none own] at sent
    refine .ite (fun _ ↦ .rejected rfl) fun _ ↦ ?_
    exact .bind (Action.run_report _ s) (serves_createAt sent _ s)

/-- An update is served. -/
theorem serves_update (sent : request.submitted? moment = some (m.identified moment.fresh))
    (s : Memory M) :
    ((inMemory M settings validate).update caller moment.now m).Ends s
      (Serves validate caller moment s request) := by
  cases own : m.oid with
  | none =>
    simp only [update, own]
    exact .refused _
  | some oid =>
    rw [Model.Object.identified_of_oid own] at sent
    simp only [update, own]
    refine .ite (fun _ ↦ .refused _) fun _ ↦ .ite (fun _ ↦ .rejected rfl) fun _ ↦ ?_
    exact serves_updateAt sent oid s

private theorem serves_delete (oid : M.Oid) (s : Memory M) :
    ((inMemory M settings validate).delete caller oid).Ends s
      (Serves validate caller moment s (.delete oid)) := by
  refine .ite (fun _ ↦ .rejected rfl) fun _ ↦ .bind (Memory.run_remove oid s) ?_
  cases there : s.get? oid with
  | some m => exact .deleted there
  | none =>
    rw [Memory.erase_of_get?_none there]
    exact .rejected rfl

/-- A valid update of an object that is stored comes to replacing it, if the service may write. -/
theorem ends_update_of_stored {stored : M.Object} {oid : M.Oid} {s : Memory M} {now : Instant}
    {P : Memory M → Reply M.Object → Prop} (writable : settings.readOnly = false)
    (own : m.oid = some oid) (known : m.version ≠ .unsaved) (valid : validate m = [])
    (there : s.get? oid = some stored)
    (replaced : ((inMemory M settings validate).replace caller now oid m).Ends s fun t answer ↦
      P t (.ok answer)) :
    ((inMemory M settings validate).update caller now m).Ends s P := by
  simp only [update, own]
  refine .ite (fun new ↦ absurd (Version.isNew_iff.mp new) known) fun _ ↦
    .ite (fun readOnly ↦ absurd (writable.symm.trans readOnly) Bool.false_ne_true) fun _ ↦ .map ?_
  simp only [updateAt, inMemory, valid]
  refine .bind (Memory.run_contains oid s) ?_
  simp only [there, Option.isSome_some]
  exact replaced

/-- What a load answers when it finds this under an OID. -/
def answerFound (oid : M.Oid) : Option M.Object → Answer M.Object
  | some m => .loaded m
  | none => reject M .load (M.oidKind.textOf oid) .notFound

/-- A load answers what is found, and leaves the store alone. -/
theorem run_load (caller : Caller) (oid : M.Oid) (s : Memory M) :
    ((inMemory M settings validate).load caller oid).run s =
      ⟨.ok (answerFound oid (s.get? oid)), s, [.loaded M.tag (M.oidKind.textOf oid)
        (answerFound oid (s.get? oid)).performed caller.correlation]⟩ := by
  simp only [load, inMemory]
  rw [Action.run_bind_of (Memory.run_find oid s)]
  cases s.get? oid <;> rfl

private theorem serves_load (oid : M.Oid) (s : Memory M) :
    ((inMemory M settings validate).load caller oid).Ends s
      (Serves validate caller moment s (.load oid)) := by
  rw [Action.Ends, run_load]
  cases there : s.get? oid with
  | none => exact .rejected rfl
  | some m => exact .loaded there

end

/-- Every request is served. -/
theorem serves_serve (settings : Settings) (validate : M.Object → List Violation) (caller : Caller)
    (moment : Moment) (request : Request M) (s : Memory M) :
    ((inMemory M settings validate).serve caller moment request).Ends s
      (Serves validate caller moment s request) := by
  cases request with
  | load oid => exact serves_load oid s
  | create m => exact serves_create rfl s
  | update m => exact serves_update rfl s
  | save m => exact .ite (fun _ ↦ serves_create rfl s) fun _ ↦ serves_update rfl s
  | delete oid => exact serves_delete oid s

/-- Serving a request keeps a store consistent. -/
theorem Serves.consistent {validate : M.Object → List Violation} {caller : Caller}
    {moment : Moment} {request : Request M} {s t : Memory M} {reply : Reply M.Object}
    (h : Serves validate caller moment s request t reply) (consistent : Consistent s) :
    Consistent t := by
  cases h with
  | refused | rejected | invalid | loaded | notModified => exact consistent
  | created _ _ _ admits => exact Memory.consistent_insert consistent admits.free (admits.fits _)
  | updated _ _ succeeds =>
    have fits := succeeds.fits (consistent.fits_of_get? succeeds.there)
    exact Memory.consistent_replace consistent fits
  | deleted => exact Memory.consistent_erase consistent _

/-- Where it is reported that an update modified nothing, the stamped object has met the stored one
with its content, and the store is as before. -/
theorem Serves.met_of_notModified {validate : M.Object → List Violation} {caller : Caller}
    {moment : Moment} {request : Request M} {s t : Memory M} {m stored : M.Object}
    (h : Serves validate caller moment s request t (.ok (.notModified .update stored)))
    (sent : request.submitted? moment = some m) :
    Meets s (m.stampedChanged caller moment.now) (request.oid moment) stored ∧
      stored.sameContent (m.stampedChanged caller moment.now) = true ∧ t = s := by
  cases h with
  | @notModified n _ sent' _ meets same =>
    obtain rfl : n = m := Option.some.inj (sent'.symm.trans sent)
    exact ⟨meets, same, rfl⟩

end Service

end VersionedStore
