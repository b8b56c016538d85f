import VersionedStore.Proofs.Service.Visits

/-!
# What a service and its store say to each other

A store may answer whatever it likes. `Dialogue` says once what a service asks of it while a request
is served, and what the service answers in the end: it asks questions until one is not answered or
there is nothing more to ask, writes once at most, and goes on after no failure. So a failure of the
store ends the request, and is told as what it is.
-/

namespace VersionedStore

open Crud

namespace Store

variable {M : Model} {σ : Type}

/-- Does a call ask for a change? -/
def Call.isWrite : Call M → Bool
  | .persist _ | .merge _ | .remove _ => true
  | .find _ | .contains _ | .findAll => false

/-- The failure that a call gives back. -/
def Result.failure? : Result M → Option Failure
  | .failed failure => some failure
  | .found _ | .contained _ | .listed _ | .persisted _ | .merged _ | .removed _ => none

/-- A question that was answered: no change was asked for, and nothing failed. -/
structure Step.Asked (step : Step M) : Prop where
  reads : step.call.isWrite = false
  answered : step.result.failure? = none

/-- What follows a recorded attempt ends as it does after the attempt has succeeded, and as it does
after it has failed, whatever state the store is left in. -/
theorem ends_recorded {α β : Type} {call : Call M} {wrap : α → Result M} {x : Attempt σ α}
    {f : Except Failure α → Action (σ × List (Step M)) β} {s : σ} {steps : List (Step M)}
    {P : σ × List (Step M) → β → Prop}
    (succeeded : ∀ t a, (f (.ok a)).Ends (t, steps ++ [⟨call, wrap a⟩]) P)
    (failed : ∀ t failure, (f (.error failure)).Ends (t, steps ++ [⟨call, .failed failure⟩]) P) :
    ((recorded call wrap x).run >>= f).Ends (s, steps) P := by
  cases run : x.run.run s with
  | mk value t events =>
    refine .bind (run_recorded run call wrap steps) ?_
    cases value with
    | ok a => exact succeeded t a
    | error failure => exact failed t failure

end Store

namespace Service

open Memory (noteA submitted)
open Store (Call Result Step)

variable {M : Model} {σ : Type}

/-- The operation that a request asks for; the version of a saved object decides which one. -/
def Request.requested : Request M → Requested
  | .load _ => .load
  | .create _ => .create
  | .update _ => .update
  | .save m => if m.version.isNew then .create else .update
  | .delete _ => .delete

/-- The OID that a request comes with. -/
def Request.ownOid? : Request M → Option M.Oid
  | .load oid | .delete oid => some oid
  | .create m | .update m | .save m => m.oid

/-- The precondition of creating that an object breaks. -/
def createBreaks? (m : M.Object) : Option Precondition :=
  if m.version.isNew then none else some (.createOfStored M.tag m.oidText m.version)

/-- The precondition of updating that an object breaks. -/
def updateBreaks? (m : M.Object) : Option Precondition :=
  match m.oid with
  | none => some (.updateWithoutOid M.tag)
  | some oid => if m.version.isNew then some (.updateOfNew M.tag (M.oidKind.textOf oid)) else none

/-- The precondition on version and OID that a request breaks. -/
def Request.breaks? : Request M → Option Precondition
  | .load _ | .delete _ => none
  | .create m => createBreaks? m
  | .update m => updateBreaks? m
  | .save m => if m.version.isNew then createBreaks? m else updateBreaks? m

/-- The reason to reject a request for a failure of the store. -/
def reasonFor (failure : Failure) : Reason :=
  match failure with
  | .notFound .. => .notFound
  | .versionConflict .. | .alreadyExists .. => .badRequest failure.message
  | _ => .serverError failure.message

/-- What is asked of a store while an operation is served under an OID, and the answer in the end:
the operation is rejected after questions, or the next call fails, or it is the last one. -/
inductive Dialogue (settings : Settings) (requested : Requested) (oid : M.Oid) :
    List (Step M) → Answer M.Object → Prop
  | rejected {asked : List (Step M)} (before : ∀ step ∈ asked, step.Asked) (reason : Reason) :
      Dialogue settings requested oid asked
        (reject M requested (M.oidKind.textOf oid) reason)
  | failed {asked : List (Step M)} {call : Call M} (before : ∀ step ∈ asked, step.Asked)
      (writable : call.isWrite = true → settings.readOnly = false) (failure : Failure) :
      Dialogue settings requested oid (asked ++ [⟨call, .failed failure⟩])
        (reject M requested (M.oidKind.textOf oid) (reasonFor failure))
  | missed {asked : List (Step M)} {last : Step M} (before : ∀ step ∈ asked, step.Asked)
      (writable : last.call.isWrite = true → settings.readOnly = false)
      (answered : last.result.failure? = none) :
      Dialogue settings requested oid (asked ++ [last])
        (reject M requested (M.oidKind.textOf oid) .notFound)
  | served {asked : List (Step M)} {last : Step M} (before : ∀ step ∈ asked, step.Asked)
      (writable : last.call.isWrite = true → settings.readOnly = false)
      (answered : last.result.failure? = none) (success : Success M.Object) :
      Dialogue settings requested oid (asked ++ [last]) (.done success)

/-- What is asked of a store while a request is served, and the reply in the end: an error for a
broken precondition, a rejection for want of an OID, or the answer of a dialogue. -/
inductive Converses (settings : Settings) (moment : Moment) (request : Request M) :
    List (Step M) → Reply M.Object → Prop
  | refused {cause : Precondition} (broken : request.breaks? = some cause) :
      Converses settings moment request [] (.error (.illegalState cause))
  | unnamed (whole : request.breaks? = none) (without : request.ownOid? = none) (reason : Reason) :
      Converses settings moment request [] (.ok (reject M request.requested none reason))
  | answered {steps : List (Step M)} {answer : Answer M.Object} (whole : request.breaks? = none)
      (dialogue : Dialogue settings request.requested (request.oid moment) steps answer) :
      Converses settings moment request steps (.ok answer)

section

variable {settings : Settings} {validate : M.Object → List Violation} {store : Store M σ}
  {asked : List (Step M)} {s : σ} {oid : M.Oid} {requested : Requested} {m : M.Object}

/-- Asking whether an OID is taken is a question. -/
theorem asked_contains (oid : M.Oid) (there : Bool) :
    ∀ step ∈ ([] ++ [⟨.contains oid, .contained there⟩] : List (Step M)), step.Asked := by
  intro step member
  obtain rfl := List.mem_singleton.mp member
  exact ⟨rfl, rfl⟩

private theorem converses_answerFailure (before : ∀ step ∈ asked, step.Asked) {call : Call M}
    (writable : call.isWrite = true → settings.readOnly = false) (t : σ) (failure : Failure) :
    (answerFailure M requested (M.oidKind.textOf oid) failure).Ends
      (t, asked ++ [⟨call, .failed failure⟩])
      fun u answer ↦ Dialogue settings requested oid u.2 answer := by
  cases failure <;> exact .failed before writable _

private theorem converses_answerInvalid (before : ∀ step ∈ asked, step.Asked)
    (own : m.oid = some oid)
    (violations : List Violation) :
    (answerInvalid requested m violations).Ends (s, asked)
      fun u answer ↦ Dialogue settings requested oid u.2 answer := by
  rw [answerInvalid, Model.Object.oidText_of_oid own]
  exact .rejected before _

private theorem converses_insert (before : ∀ step ∈ asked, step.Asked) (own : m.oid = some oid)
    (writable : settings.readOnly = false) (caller : Caller) (now : Instant) :
    ((Service.mk store.recording settings validate).insert caller now requested m).Ends (s, asked)
      fun u answer ↦ Dialogue settings requested oid u.2 answer := by
  refine Store.ends_recorded (fun t stored ↦ ?_) fun t failure ↦ ?_
  · exact .served before (fun _ ↦ writable) rfl _
  · rw [Model.Object.oidText_of_oid own]
    exact converses_answerFailure before (fun _ ↦ writable) t failure

private theorem converses_createAt (own : m.oid = some oid) (writable : settings.readOnly = false)
    (caller : Caller) (now : Instant) :
    ((Service.mk store.recording settings validate).createAt caller now oid m).Ends (s, [])
      fun u answer ↦ Dialogue settings .create oid u.2 answer := by
  refine Store.ends_recorded (fun t there ↦ ?_) fun t failure ↦ ?_
  · have question := asked_contains oid there
    cases there with
    | true => exact .rejected question _
    | false =>
      simp only
      cases validate m with
      | nil => exact converses_insert question own writable caller now
      | cons violation more => exact converses_answerInvalid question own _
  · exact converses_answerFailure (List.forall_mem_nil _) (by rintro ⟨⟩) t failure

private theorem converses_replace (before : ∀ step ∈ asked, step.Asked)
    (writable : settings.readOnly = false) (caller : Caller) (now : Instant) :
    ((Service.mk store.recording settings validate).replace caller now oid m).Ends (s, asked)
      fun u answer ↦ Dialogue settings .update oid u.2 answer := by
  refine Store.ends_recorded (fun t merged ↦ ?_) fun t failure ↦ ?_
  · cases merged <;> exact .served before (fun _ ↦ writable) rfl _
  · exact converses_answerFailure before (fun _ ↦ writable) t failure

private theorem converses_updateAt (own : m.oid = some oid) (writable : settings.readOnly = false)
    (caller : Caller) (now : Instant) :
    ((Service.mk store.recording settings validate).updateAt caller now oid m).Ends (s, [])
      fun u answer ↦ Dialogue settings .update oid u.2 answer := by
  simp only [updateAt]
  cases validate m with
  | cons violation more => exact converses_answerInvalid (List.forall_mem_nil _) own _
  | nil =>
    refine Store.ends_recorded (fun t there ↦ ?_) fun t failure ↦ ?_
    · have question := asked_contains oid there
      cases there with
      | true => exact converses_replace question writable caller now
      | false =>
        refine .ite (fun _ ↦ ?_) fun _ ↦ .rejected question _
        exact .bind (Action.run_report _ _) (converses_insert question own writable caller now)
    · exact converses_answerFailure (List.forall_mem_nil _) (by rintro ⟨⟩) t failure

variable {moment : Moment} {request : Request M}

/-- The answer of a dialogue is the reply to a request that asks for its operation under its OID. -/
theorem Dialogue.converses {steps : List (Step M)} {answer : Answer M.Object}
    (h : Dialogue settings requested oid steps answer) (whole : request.breaks? = none)
    (asks : request.requested = requested) (named : request.oid moment = oid) :
    Converses settings moment request steps (.ok answer) := by
  subst asks named
  exact .answered whole h

private theorem converses_unasked (whole : request.breaks? = none) (own : request.ownOid? = m.oid)
    (named : request.oid moment = m.oid.getD (M.oidKind.generate moment.fresh))
    (reason : Reason) :
    Converses settings moment request [] (.ok (reject M request.requested m.oidText reason)) := by
  cases given : m.oid with
  | none =>
    rw [given] at own
    rw [Model.Object.oidText, given]
    exact .unnamed whole own reason
  | some oid =>
    rw [given] at named
    rw [Model.Object.oidText_of_oid given]
    exact Dialogue.converses (.rejected (List.forall_mem_nil _) reason) whole rfl named

private theorem converses_create (asks : request.requested = .create)
    (breaks : request.breaks? = createBreaks? m) (own : request.ownOid? = m.oid)
    (named : request.oid moment = m.oid.getD (M.oidKind.generate moment.fresh)) (caller : Caller) :
    ((Service.mk store.recording settings validate).create caller moment m).Ends (s, [])
      fun u reply ↦ Converses settings moment request u.2 reply := by
  refine .ite (fun stored ↦ .refused ?_) fun new ↦ ?_
  · rw [breaks, createBreaks?, if_neg (by simpa using stored)]
  have whole : request.breaks? = none := by
    rw [breaks, createBreaks?, if_pos (by simpa using new)]
  refine .ite (fun _ ↦ ?_) fun writable ↦ ?_
  · have unasked : Converses settings moment request [] (.ok (reject M request.requested m.oidText
        (.badRequest "persistence is in read-only mode"))) :=
      converses_unasked whole own named _
    rwa [asks] at unasked
  have writable : settings.readOnly = false := Bool.eq_false_iff.mpr writable
  have create {n : M.Object} {oid : M.Oid} (given : n.oid = some oid) :
      ((Service.mk store.recording settings validate).createAt caller moment.now oid n).Ends (s, [])
        fun u answer ↦ Dialogue settings .create oid u.2 answer :=
    converses_createAt given writable caller moment.now
  cases given : m.oid with
  | some oid =>
    rw [given] at named
    exact (create given).converses whole asks named
  | none =>
    refine .ite (fun _ ↦ ?_) fun _ ↦ ?_
    · have unnamed : Converses settings moment request [] (.ok (reject M request.requested none
          (.badRequest "oid is required when oid generation is disabled"))) :=
        .unnamed whole (own.trans given) _
      rwa [asks] at unnamed
    · rw [given] at named
      exact .bind (Action.run_report _ _) ((create rfl).converses whole asks named)

private theorem converses_update (asks : request.requested = .update)
    (breaks : request.breaks? = updateBreaks? m)
    (named : request.oid moment = m.oid.getD (M.oidKind.generate moment.fresh)) (caller : Caller)
    (now : Instant) :
    ((Service.mk store.recording settings validate).update caller now m).Ends (s, [])
      fun u reply ↦ Converses settings moment request u.2 reply := by
  unfold update
  rw [updateBreaks?] at breaks
  cases given : m.oid with
  | none =>
    rw [given] at breaks
    exact .refused breaks
  | some oid =>
    rw [given] at breaks named
    refine .ite (fun new ↦ .refused (breaks.trans (if_pos new))) fun old ↦ ?_
    have whole : request.breaks? = none := breaks.trans (if_neg old)
    refine .ite (fun _ ↦ ?_) fun writable ↦ ?_
    · exact Dialogue.converses (.rejected (List.forall_mem_nil _) _) whole asks named
    · have writable : settings.readOnly = false := Bool.eq_false_iff.mpr writable
      have dialogue : ((Service.mk store.recording settings validate).updateAt caller now oid
          m).Ends (s, []) fun u answer ↦ Dialogue settings .update oid u.2 answer :=
        converses_updateAt given writable caller now
      exact dialogue.converses whole asks named

private theorem converses_delete (caller : Caller) :
    ((Service.mk store.recording settings validate).delete caller oid).Ends (s, [])
      fun u reply ↦ Converses settings moment (.delete oid) u.2 reply := by
  have none : ∀ step ∈ ([] : List (Step M)), step.Asked := List.forall_mem_nil _
  refine .ite (fun _ ↦ .answered rfl (.rejected none _)) fun writable ↦ ?_
  rw [Bool.not_eq_true] at writable
  refine Store.ends_recorded (fun t removed ↦ ?_) fun t failure ↦ ?_
  · cases removed with
    | none => exact .answered rfl (.missed none (fun _ ↦ writable) rfl)
    | some m => exact .answered rfl (.served none (fun _ ↦ writable) rfl _)
  · exact .answered rfl (converses_answerFailure none (fun _ ↦ writable) t failure)

private theorem converses_load (caller : Caller) :
    ((Service.mk store.recording settings validate).load caller oid).Ends (s, [])
      fun u reply ↦ Converses settings moment (.load oid) u.2 reply := by
  have none : ∀ step ∈ ([] : List (Step M)), step.Asked := List.forall_mem_nil _
  refine Store.ends_recorded (fun t found ↦ ?_) fun t failure ↦ ?_
  · cases found with
    | none => exact .answered rfl (.missed none (by rintro ⟨⟩) rfl)
    | some m => exact .answered rfl (.served none (by rintro ⟨⟩) rfl _)
  · exact .answered rfl (converses_answerFailure none (by rintro ⟨⟩) t failure)

end

/-- Every request is served in a dialogue, whatever the store answers. -/
theorem converses_serve (settings : Settings) (validate : M.Object → List Violation)
    (store : Store M σ) (caller : Caller) (moment : Moment) (request : Request M) (s : σ) :
    ((Service.mk store.recording settings validate).serve caller moment request).Ends (s, [])
      fun u reply ↦ Converses settings moment request u.2 reply := by
  cases request with
  | load oid => exact converses_load caller
  | create m => exact converses_create rfl rfl rfl rfl caller
  | update m => exact converses_update rfl rfl rfl caller moment.now
  | delete oid => exact converses_delete caller
  | save m =>
    refine .ite (fun new ↦ ?_) fun old ↦ ?_
    · have asks : (Request.save m).requested = .create := if_pos new
      exact converses_create asks (if_pos new) rfl rfl caller
    · have asks : (Request.save m).requested = .update := if_neg old
      exact converses_update asks (if_neg old) rfl caller moment.now

/-- How many changes were asked for. -/
def writes (steps : List (Step M)) : Nat := steps.countP fun step ↦ step.call.isWrite

/-- Questions are no changes. -/
theorem writes_of_asked {asked : List (Step M)} (before : ∀ step ∈ asked, step.Asked) :
    writes asked = 0 := by
  apply List.countP_eq_zero.mpr
  intro step member
  rw [(before step member).reads]
  exact Bool.false_ne_true

/-- After questions, only the last call may ask for a change. -/
theorem writes_append {asked : List (Step M)} (before : ∀ step ∈ asked, step.Asked)
    (last : Step M) : writes (asked ++ [last]) = if last.call.isWrite then 1 else 0 := by
  have questions := writes_of_asked before
  unfold writes at questions ⊢
  rw [List.countP_append, questions, Nat.zero_add, List.countP_singleton]

/-- After questions, only the last call may fail. -/
theorem eq_last_of_failed {asked front back : List (Step M)} {last step : Step M}
    (before : ∀ step ∈ asked, step.Asked) {failure : Failure}
    (failed : step.result = .failed failure)
    (split : asked ++ [last] = front ++ step :: back) : back = [] ∧ step = last := by
  rcases List.eq_nil_or_concat back with rfl | ⟨more, end', rfl⟩
  · obtain ⟨-, same⟩ := List.append_inj' split rfl
    exact ⟨rfl, (List.cons.inj same).1.symm⟩
  · -- A failed step before the last one would be among the questions.
    rw [List.concat_eq_append, ← List.cons_append, ← List.append_assoc] at split
    obtain ⟨same, -⟩ := List.append_inj' split rfl
    have member : step ∈ asked := by simp [same]
    have answered := (before step member).answered
    rw [failed] at answered
    cases answered

private theorem violations?_reasonFor (failure : Failure) :
    (reasonFor failure).violations? = none := by
  cases failure <;> rfl

section

variable {settings : Settings} {requested : Requested} {oid : M.Oid} {steps : List (Step M)}
  {answer : Answer M.Object}

/-- A failure ends a dialogue, and is the reason of the rejection. -/
theorem Dialogue.of_failed (h : Dialogue settings requested oid steps answer)
    {front back : List (Step M)} {step : Step M} (split : steps = front ++ step :: back)
    {failure : Failure} (failed : step.result = .failed failure) :
    back = [] ∧ answer = reject M requested (M.oidKind.textOf oid) (reasonFor failure) := by
  have fails : step.result.failure? = some failure := by rw [failed]; rfl
  cases h with
  | rejected before =>
    have member : step ∈ steps := by simp [split]
    rw [(before step member).answered] at fails
    cases fails
  | failed before _ told =>
    obtain ⟨nothing, rfl⟩ := eq_last_of_failed before failed split
    cases failed
    exact ⟨nothing, rfl⟩
  | missed before _ answered | served before _ answered =>
    obtain ⟨-, rfl⟩ := eq_last_of_failed before failed split
    rw [answered] at fails
    cases fails

/-- A dialogue ends in rejections of its operation under its OID. -/
theorem Dialogue.rejection {r : Rejection}
    (h : Dialogue settings requested oid steps (.rejected r)) :
    r = .make requested M.tag (M.oidKind.textOf oid) r.reason := by
  cases h <;> rfl

/-- A dialogue asks for one change at most. -/
theorem Dialogue.writes_le (h : Dialogue settings requested oid steps answer) :
    writes steps ≤ 1 := by
  have one (write : Bool) : (if write then 1 else 0) ≤ 1 := by cases write <;> decide
  cases h with
  | rejected before =>
    rw [writes_of_asked before]
    exact Nat.zero_le 1
  | failed before | missed before | served before =>
    rw [writes_append before]
    exact one _

/-- A dialogue asks for no change when nothing may be written, or when the answer tells
violations. -/
theorem Dialogue.writes_eq_zero (h : Dialogue settings requested oid steps answer)
    (idle : settings.readOnly = true ∨ ∃ r, answer = .rejected r ∧ r.reason.violations? ≠ none) :
    writes steps = 0 := by
  have spared {asked : List (Step M)} {last : Step M} (before : ∀ step ∈ asked, step.Asked)
      (writable : last.call.isWrite = true → settings.readOnly = false)
      (readOnly : settings.readOnly = true) : writes (asked ++ [last]) = 0 := by
    rw [writes_append before, if_neg]
    intro write
    cases (writable write).symm.trans readOnly
  cases h with
  | rejected before => exact writes_of_asked before
  | failed before writable failure =>
    rcases idle with readOnly | ⟨r, same, told⟩
    · exact spared before writable readOnly
    · cases same
      exact absurd (violations?_reasonFor failure) told
  | missed before writable =>
    rcases idle with readOnly | ⟨r, same, told⟩
    · exact spared before writable readOnly
    · cases same
      exact absurd rfl told
  | served before writable =>
    rcases idle with readOnly | ⟨r, same, -⟩
    · exact spared before writable readOnly
    · cases same

end

/-- Failures of a store are told, and end the request. Whatever a store answers, beginning with any
state of it, a request is refused with an error exactly when it breaks a precondition on version and
OID. A call that fails is the last one, and the request is rejected for the reason of the failure,
as the requested operation under the tag and the OID of its object; so is every other rejection,
save that one for want of an OID names none. At most one change is asked for, and none by a request
that is refused, that is rejected as invalid, or to a service that only reads. The calls are those
that a store with a record has kept, which answers as the store does. -/
theorem store_failures_told (store : Store M σ) (settings : Settings)
    (validate : M.Object → List Violation) (caller : Caller) (moment : Moment)
    (request : Request M) (s : σ) :
    let outcome := ((Service.mk store settings validate).serve caller moment request).run s
    let told := ((Service.mk store.recording settings validate).serve caller moment request).run
      (s, [])
    let steps := told.state.2
    let text := M.oidKind.textOf (request.oid moment)
    outcome = ⟨told.value, told.state.1, told.events⟩ ∧
    (∀ e, outcome.value = .error e ↔
      ∃ cause, request.breaks? = some cause ∧ e = .illegalState cause) ∧
    (∀ front step back failure, steps = front ++ step :: back → step.result = .failed failure →
      back = [] ∧ outcome.value =
        .ok (.rejected (.make request.requested M.tag text (reasonFor failure)))) ∧
    (∀ r, outcome.value = .ok (.rejected r) → ∃ oid,
      r = .make request.requested M.tag oid r.reason ∧
      (oid = some text ∨ oid = none ∧ request.ownOid? = none ∧ steps = [])) ∧
    writes steps ≤ 1 ∧
    (settings.readOnly = true ∨ (∃ e, outcome.value = .error e) ∨
      (∃ r, outcome.value = .ok (.rejected r) ∧ r.reason.violations? ≠ none) →
        writes steps = 0) := by
  intro outcome told steps text
  have mirror : outcome = ⟨told.value, told.state.1, told.events⟩ :=
    mirrors_serve (Store.mirrors_recording store) caller moment request (s, [])
  have converses : Converses settings moment request steps told.value :=
    converses_serve settings validate store caller moment request s
  have value : outcome.value = told.value := congrArg Outcome.value mirror
  rw [value]
  refine ⟨mirror, ?_⟩
  generalize steps = asked at converses
  generalize told.value = reply at converses
  cases converses with
  | refused broken =>
    refine ⟨fun e ↦ ?_, by simp, by simp, by simp [writes], fun _ ↦ by simp [writes]⟩
    rw [broken]
    simp [eq_comm]
  | unnamed whole without reason =>
    refine ⟨fun e ↦ by simp [whole], by simp, ?_, by simp [writes], fun _ ↦ by simp [writes]⟩
    rintro r ⟨⟩
    exact ⟨none, rfl, .inr ⟨rfl, without, rfl⟩⟩
  | answered whole dialogue =>
    refine ⟨fun e ↦ by simp [whole], ?_, ?_, dialogue.writes_le, ?_⟩
    · intro front step back failure split failed
      obtain ⟨nothing, rfl⟩ := dialogue.of_failed split failed
      exact ⟨nothing, rfl⟩
    · rintro r ⟨⟩
      exact ⟨_, dialogue.rejection, .inl rfl⟩
    · rintro (readOnly | ⟨e, ⟨⟩⟩ | ⟨r, ⟨⟩, told⟩)
      · exact dialogue.writes_eq_zero (.inl readOnly)
      · exact dialogue.writes_eq_zero (.inr ⟨r, rfl, told⟩)

/-- A store for notes that finds nothing and takes everything for stored already. -/
def contradictory : Store Catalogue.note Unit where
  find _ := return none
  contains _ := return false
  findAll := return []
  persist m := throw (.alreadyExists Catalogue.note.tag m.oidText)
  merge m := throw (.notFound Catalogue.note.tag m.oidText)
  remove _ := throw (.database (.stated "connection lost"))

/-- The store says that a note is not there, and then that it is: the create is rejected for that,
after one call for a change. -/
theorem store_failures_told_contradictory :
    let moment : Moment := ⟨.epoch, Schema.initial .uuid⟩
    let request := Request.create (submitted noteA "first" .unsaved)
    let serve {σ : Type} (store : Store Catalogue.note σ) :=
      (Service.mk store .standard fun _ ↦ []).serve .anonymous moment request
    let steps := ((serve contradictory.recording).run ((), [])).state.2
    steps.map Step.result = [.contained false, .failed (.alreadyExists "note" "a")] ∧
    writes steps ≤ 1 ∧
    ((serve contradictory).run ()).value = .ok (.rejected (.make .create "note" "a"
      (.badRequest "already exists: model_type=note, oid=a"))) := by
  intro moment request serve steps
  obtain ⟨-, -, ends, -, once, -⟩ := store_failures_told contradictory .standard (fun _ ↦ [])
    .anonymous moment request ()
  have results : steps.map Step.result =
      [.contained false, .failed (.alreadyExists "note" "a")] := by decide +kernel
  refine ⟨results, once, ?_⟩
  obtain ⟨first, rest, split, -, others⟩ := List.map_eq_cons_iff.mp results
  obtain ⟨last, back, rfl, failed, -⟩ := List.map_eq_cons_iff.mp others
  exact (ends [first] last back _ split failed).2

end Service

end VersionedStore
