import VersionedStore.Proofs.Service.Dialogue
import VersionedStore.Proofs.Service.WriteLog

/-!
# What is logged of a request

An event concerns a request if a service reports it under the model's tag and with the requested
operation. `Logged` says how an answer goes with the events behind it, for any store: one of them
concerns the request and its OID, unless the store misses an object that it was not asked for or had
just said to have. Every function of the service is run once to show this. Only a deletion that
finds nothing is answered without a word.
-/

namespace VersionedStore

open Crud

namespace Crud

private theorem Event.field?_requested {e : Event} {requested : Requested}
    (h : e.requested? = some requested) :
    e.entry.field? "requested" = some (.shown requested.text) := by
  cases oid : e.oid? <;> simp [entry, Log.Entry.field?, oid, h]

private theorem Event.content_oidValue (e : Event) (oid : String) :
    (e.oidValue oid).content = oid := by
  cases e <;> rfl

/-- A service reports the event of a request under a tag, with the operation that is asked for. -/
structure Event.Concerns (tag : String) (requested : Requested) (e : Event) : Prop where
  target : e.target = "r01f_application::crud_service"
  tag : e.tag = tag
  requested : e.requested? = some requested

namespace Action

variable {σ α β : Type}

/-- An action gives a value and events that go together. -/
def Gives (x : Action σ α) (s : σ) (P : α → List Event → Prop) : Prop :=
  P (x.run s).value (x.run s).events

/-- A choice between actions gives what the chosen one does. -/
theorem Gives.ite {c : Prop} [Decidable c] {x y : Action σ α} {s : σ} {P : α → List Event → Prop}
    (yes : c → x.Gives s P) (no : ¬c → y.Gives s P) : (if c then x else y).Gives s P := by
  by_cases h : c
  · rw [if_pos h]
    exact yes h
  · rw [if_neg h]
    exact no h

/-- What follows an action gives what goes with further events before it. -/
theorem Gives.bind {x : Action σ α} {f : α → Action σ β} {s : σ} {P : β → List Event → Prop}
    (more : ∀ b before events, P b events → P b (before ++ events))
    (rest : (f (x.run s).value).Gives (x.run s).state P) : (x >>= f).Gives s P := by
  rw [Gives, run_bind]
  exact more _ _ _ rest

/-- Giving the value of an action in another form gives the same events. -/
theorem Gives.map {x : Action σ α} {g : α → β} {s : σ} {P : β → List Event → Prop}
    (h : x.Gives s fun a events ↦ P (g a) events) : (do return g (← x)).Gives s P := by
  rw [Gives, run_bind, run_pure, List.append_nil]
  exact h

end Action

end Crud

/-- A store fails for want of an object although it was not told to find one, or had just said to
have it. -/
inductive Store.Misses {M : Model} {σ : Type} (store : Store M σ) : Prop
  | contains {oid : M.Oid} {s : σ} {tag text : String}
      (failed : ((store.contains oid).run.run s).value = .error (.notFound tag text))
  | persist {m : M.Object} {s : σ} {tag text : String}
      (failed : ((store.persist m).run.run s).value = .error (.notFound tag text))
  | merge {m : M.Object} {oid : M.Oid} {s : σ} {tag text : String} (own : m.oid = some oid)
      (there : ((store.contains oid).run.run s).value = .ok true)
      (failed : ((store.merge m).run.run ((store.contains oid).run.run s).state).value =
        .error (.notFound tag text))
  | remove {oid : M.Oid} {s : σ} {tag text : String}
      (failed : ((store.remove oid).run.run s).value = .error (.notFound tag text))

namespace Memory

variable {M : Model}

private theorem persist_ne_notFound (m : M.Object) (s : Memory M) (tag text : String) :
    ((persist m).run.run s).value ≠ .error (.notFound tag text) := by
  intro failed
  obtain ⟨failure, cause, h⟩ | ⟨oid, -, h⟩ := persist_cases m s
  · rw [h] at failed
    cases failed
    cases cause with
    | persistIncoherent _ incoherent =>
      obtain ⟨cause, other⟩ := Tracking.validate_eq_error incoherent
      cases other
  · rw [h] at failed
    cases failed

private theorem merge_ne_notFound {m : M.Object} {oid : M.Oid} {s : Memory M}
    (own : m.oid = some oid)
    (there : (s.get? oid).isSome = true) (tag text : String) :
    ((merge m).run.run s).value ≠ .error (.notFound tag text) := by
  intro failed
  obtain ⟨failure, cause, h⟩ | ⟨_, _, -, -, h⟩ | ⟨_, _, _, -, h⟩ := merge_cases m s
  · rw [h] at failed
    cases failed
    cases cause with
    | missing own' free =>
      obtain rfl := Option.some.inj (own.symm.trans own')
      rw [free] at there
      cases there
    | mergeIncoherent _ _ incoherent =>
      obtain ⟨cause, other⟩ := Tracking.validate_eq_error incoherent
      cases other
  · rw [h] at failed
    cases failed
  · rw [h] at failed
    cases failed

/-- The store in memory misses nothing. -/
theorem not_misses (M : Model) : ¬(store M).Misses := by
  intro misses
  cases misses with
  | contains failed => cases failed
  | persist failed => exact persist_ne_notFound _ _ _ _ failed
  | merge own there failed => exact merge_ne_notFound own (Except.ok.inj there) _ _ failed
  | remove failed => cases failed

end Memory

namespace Service

open Memory (noteA noteB submitted)

variable {M : Model} {σ : Type}

/-- An answer to an operation under an OID, and the events behind it. -/
inductive Logged (store : Store M σ) (requested : Requested) (text : String) :
    Answer M.Object → List Event → Prop
  | done {success : Success M.Object} {events : List Event} (asks : success.requested = requested)
      (told : ∃ e ∈ events, e.Concerns M.tag requested ∧ e.oid? = some text) :
      Logged store requested text (.done success) events
  | rejected (reason : Reason) {events : List Event}
      (told : ∃ e ∈ events, e.Concerns M.tag requested ∧ e.oid? = some text) :
      Logged store requested text (reject M requested text reason) events
  | missed (misses : store.Misses) (events : List Event) :
      Logged store requested text (reject M requested text .notFound) events

/-- A reply to a request and the events behind it. A rejection may name no OID, and a deletion that
finds nothing is not logged. -/
inductive LoggedReply (s : Service M σ) (moment : Moment) (st : σ) (request : Request M) :
    Reply M.Object → List Event → Prop
  | refused (e : ServiceError) (events : List Event) :
      LoggedReply s moment st request (.error e) events
  | unnamed (reason : Reason) {events : List Event}
      (told : ∃ e ∈ events, e.Concerns M.tag request.requested) :
      LoggedReply s moment st request (.ok (reject M request.requested none reason)) events
  | logged {answer : Answer M.Object} {events : List Event}
      (h : Logged s.store request.requested (M.oidKind.textOf (request.oid moment)) answer events) :
      LoggedReply s moment st request (.ok answer) events
  | vanished {oid : M.Oid} (deletes : request = .delete oid)
      (writable : s.settings.readOnly = false)
      (removed : ((s.store.remove oid).run.run st).value = .ok none) (events : List Event) :
      LoggedReply s moment st request (.ok (reject M .delete (M.oidKind.textOf oid) .notFound))
        events

/-- What is told by some events is told by them after others. -/
theorem told_append {p : Event → Prop} {events : List Event} (told : ∃ e ∈ events, p e)
    (before : List Event) : ∃ e ∈ before ++ events, p e := by
  obtain ⟨e, he, about⟩ := told
  exact ⟨e, List.mem_append_right before he, about⟩

section

variable {store : Store M σ} {settings : Settings} {validate : M.Object → List Violation}
  {requested : Requested} {text : String} {oid : M.Oid} {m : M.Object} {st : σ}

/-- Further events before them do not matter to what is logged. -/
theorem Logged.more {answer : Answer M.Object} {events : List Event}
    (h : Logged store requested text answer events) (before : List Event) :
    Logged store requested text answer (before ++ events) := by
  cases h with
  | done asks told => exact .done asks (told_append told before)
  | rejected reason told => exact .rejected reason (told_append told before)
  | missed misses => exact .missed misses _

private theorem logs_bind {α : Type} {x : Action σ α} {f : α → Action σ (Answer M.Object)}
    (rest : (f (x.run st).value).Gives (x.run st).state (Logged store requested text)) :
    (x >>= f).Gives st (Logged store requested text) :=
  .bind (fun _ before _ h ↦ h.more before) rest

private theorem logs_rejected {e : Event} (concerns : e.Concerns M.tag requested)
    (named : e.oid? = some text) (reason : Reason) :
    (answering e (reject M requested text reason)).Gives st (Logged store requested text) :=
  .rejected reason ⟨e, List.mem_cons_self, concerns, named⟩

private theorem logs_done {e : Event} (concerns : e.Concerns M.tag requested)
    (named : e.oid? = some text)
    {success : Success M.Object} (asks : success.requested = requested) :
    (answering e (.done success)).Gives st (Logged store requested text) :=
  .done asks ⟨e, List.mem_cons_self, concerns, named⟩

private theorem logs_answerFailure {failure : Failure}
    (missing : ∀ tag text', failure = .notFound tag text' → store.Misses) :
    (answerFailure M requested text failure).Gives st (Logged store requested text) := by
  cases failure with
  | notFound tag text' => exact .missed (missing tag text' rfl) _
  | versionConflict | alreadyExists => exact logs_rejected ⟨rfl, rfl, rfl⟩ rfl _
  | _ => exact logs_rejected ⟨rfl, rfl, rfl⟩ rfl _

private theorem logs_answerInvalid (own : m.oidText = text) (violations : List Violation) :
    (answerInvalid requested m violations).Gives st (Logged store requested text) := by
  subst own
  exact logs_rejected ⟨rfl, rfl, rfl⟩ rfl _

private theorem logs_insert (caller : Caller) (now : Instant) (own : m.oidText = text) :
    ((Service.mk store settings validate).insert caller now requested m).Gives st
      (Logged store requested text) := by
  subst own
  refine logs_bind ?_
  cases persisted : ((store.persist _).run.run st).value with
  | ok stored => exact logs_done ⟨rfl, rfl, rfl⟩ rfl rfl
  | error failure =>
    refine logs_answerFailure ?_
    rintro tag text rfl
    exact .persist persisted

private theorem logs_createAt (caller : Caller) (now : Instant) (own : m.oid = some oid) :
    ((Service.mk store settings validate).createAt caller now oid m).Gives st
      (Logged store .create (M.oidKind.textOf oid)) := by
  have text : m.oidText = M.oidKind.textOf oid := Model.Object.oidText_of_oid own
  refine logs_bind ?_
  cases asked : ((store.contains oid).run.run st).value with
  | error failure =>
    refine logs_answerFailure ?_
    rintro tag text rfl
    exact .contains asked
  | ok there =>
    cases there with
    | true => exact logs_rejected ⟨rfl, rfl, rfl⟩ rfl _
    | false =>
      simp only
      cases validate m with
      | nil => exact logs_insert caller now text
      | cons violation more => exact logs_answerInvalid text _

private theorem logs_replace (caller : Caller) (now : Instant) (own : m.oid = some oid)
    (there : ((store.contains oid).run.run st).value = .ok true) :
    ((Service.mk store settings validate).replace caller now oid m).Gives
      ((store.contains oid).run.run st).state (Logged store .update (M.oidKind.textOf oid)) := by
  refine logs_bind ?_
  cases merged : ((store.merge _).run.run ((store.contains oid).run.run st).state).value with
  | ok merged' =>
    cases merged' with
    | updated stored => exact logs_done ⟨rfl, rfl, rfl⟩ rfl rfl
    | notModified stored => exact logs_done ⟨rfl, rfl, rfl⟩ rfl rfl
  | error failure =>
    refine logs_answerFailure ?_
    rintro tag text rfl
    exact .merge (m := m.stampedChanged caller now) own there merged

private theorem logs_updateAt (caller : Caller) (now : Instant) (own : m.oid = some oid) :
    ((Service.mk store settings validate).updateAt caller now oid m).Gives st
      (Logged store .update (M.oidKind.textOf oid)) := by
  have text : m.oidText = M.oidKind.textOf oid := Model.Object.oidText_of_oid own
  simp only [updateAt]
  cases validate m with
  | cons violation more => exact logs_answerInvalid text _
  | nil =>
    refine logs_bind ?_
    cases asked : ((store.contains oid).run.run st).value with
    | error failure =>
      refine logs_answerFailure ?_
      rintro tag text rfl
      exact .contains asked
    | ok there =>
      cases there with
      | true => exact logs_replace caller now own asked
      | false =>
        refine .ite (fun _ ↦ ?_) fun _ ↦ logs_rejected ⟨rfl, rfl, rfl⟩ rfl _
        exact logs_bind (logs_insert caller now text)

variable {s : Service M σ} {moment : Moment} {request : Request M}

/-- Further events before them do not matter to what is logged of a reply. -/
theorem LoggedReply.more {reply : Reply M.Object} {events : List Event}
    (h : LoggedReply s moment st request reply events) (before : List Event) :
    LoggedReply s moment st request reply (before ++ events) := by
  cases h with
  | refused e => exact .refused e _
  | unnamed reason told => exact .unnamed reason (told_append told before)
  | logged h => exact .logged (h.more before)
  | vanished deletes writable removed => exact .vanished deletes writable removed _

private theorem logsReply_bind {α : Type} {x : Action σ α} {f : α → Action σ (Reply M.Object)}
    {t : σ}
    (rest : (f (x.run t).value).Gives (x.run t).state (LoggedReply s moment st request)) :
    (x >>= f).Gives t (LoggedReply s moment st request) :=
  .bind (fun _ before _ h ↦ h.more before) rest

/-- An answer that is logged is the reply to a request for its operation under its OID. -/
theorem Logged.reply {answer : Answer M.Object} {events : List Event}
    (h : Logged s.store requested (M.oidKind.textOf oid) answer events)
    (asks : request.requested = requested) (named : request.oid moment = oid) :
    LoggedReply s moment st request (.ok answer) events := by
  subst asks named
  exact .logged h

/-- An answer tells the operation that was asked for. -/
theorem LoggedReply.requested_eq {answer : Answer M.Object} {events : List Event}
    (h : LoggedReply s moment st request (.ok answer) events) :
    answer.requested = request.requested := by
  cases h with
  | unnamed reason told => rfl
  | vanished deletes writable removed => exact deletes ▸ rfl
  | logged h =>
    cases h with
    | done asks told => exact asks
    | rejected reason told => rfl
    | missed misses => rfl

private theorem logs_create (asks : request.requested = .create)
    (named : request.oid moment = m.oid.getD (M.oidKind.generate moment.fresh)) (caller : Caller) :
    (s.create caller moment m).Gives st (LoggedReply s moment st request) := by
  have created {n : M.Object} {oid : M.Oid} (own : n.oid = some oid) :
      (s.createAt caller moment.now oid n).Gives st
        (Logged s.store .create (M.oidKind.textOf oid)) := logs_createAt caller moment.now own
  refine .ite (fun _ ↦ .refused _ _) fun _ ↦ ?_
  cases own : m.oid with
  | some oid =>
    rw [own] at named
    refine .ite (fun _ ↦ .map ?_) fun _ ↦ .map ((created own).reply asks named)
    rw [Model.Object.oidText_of_oid own]
    exact Logged.reply (logs_rejected ⟨rfl, rfl, rfl⟩ rfl _) asks named
  | none =>
    rw [own] at named
    have unnamed {e : Event} (concerns : e.Concerns M.tag .create) (reason : Reason) :
        LoggedReply s moment st request (.ok (reject M .create none reason)) [e] := by
      rw [← asks] at concerns ⊢
      exact .unnamed reason ⟨e, List.mem_singleton_self e, concerns⟩
    refine .ite (fun _ ↦ .map ?_) fun _ ↦ .ite (fun _ ↦ .map ?_) fun _ ↦ ?_
    · rw [Model.Object.oidText, own]
      exact unnamed ⟨rfl, rfl, rfl⟩ _
    · exact unnamed ⟨rfl, rfl, rfl⟩ _
    · exact logsReply_bind (.map ((created rfl).reply asks named))

private theorem logs_update (asks : request.requested = .update)
    (named : request.oid moment = m.oid.getD (M.oidKind.generate moment.fresh)) (caller : Caller) :
    (s.update caller moment.now m).Gives st (LoggedReply s moment st request) := by
  unfold update
  cases own : m.oid with
  | none => exact .refused _ _
  | some oid =>
    rw [own] at named
    have updated : (s.updateAt caller moment.now oid m).Gives st
        (Logged s.store .update (M.oidKind.textOf oid)) := logs_updateAt caller moment.now own
    refine .ite (fun _ ↦ .refused _ _) fun _ ↦ .ite (fun _ ↦ .map ?_) fun _ ↦
      .map (updated.reply asks named)
    exact Logged.reply (logs_rejected ⟨rfl, rfl, rfl⟩ rfl _) asks named

private theorem logs_delete (caller : Caller) (oid : M.Oid) :
    (s.delete caller oid).Gives st (LoggedReply s moment st (.delete oid)) := by
  refine .ite (fun _ ↦ .map ?_) fun writable ↦ logsReply_bind ?_
  · exact .logged (logs_rejected ⟨rfl, rfl, rfl⟩ rfl _)
  · cases removed : ((s.store.remove oid).run.run st).value with
    | error failure =>
      refine .map (.logged (logs_answerFailure ?_))
      rintro tag text rfl
      exact .remove removed
    | ok found =>
      cases found with
      | some m => exact .logged (logs_done ⟨rfl, rfl, rfl⟩ rfl rfl)
      | none => exact .vanished rfl (Bool.eq_false_iff.mpr writable) removed _

private theorem logs_load (caller : Caller) (oid : M.Oid) :
    (s.load caller oid).Gives st (LoggedReply s moment st (.load oid)) := by
  have told (performed : Option Performed) (before : List Event) :
      let e := Event.loaded M.tag (M.oidKind.textOf oid) performed caller.correlation
      ∃ e' ∈ before ++ [e], e'.Concerns M.tag .load ∧ e'.oid? = some (M.oidKind.textOf oid) :=
    ⟨_, List.mem_append_right before List.mem_cons_self, ⟨rfl, rfl, rfl⟩, rfl⟩
  refine logsReply_bind ?_
  cases found : ((s.store.find oid).run.run st).value with
  | ok m =>
    cases m with
    | some m => exact .logged (.done rfl (told _ []))
    | none => exact .logged (.rejected _ (told _ []))
  | error failure => cases failure <;> exact .logged (.rejected _ (told _ _))

/-- Every request is logged, unless it deletes and finds nothing. -/
theorem logs_serve (s : Service M σ) (caller : Caller) (moment : Moment) (request : Request M)
    (st : σ) :
    (s.serve caller moment request).Gives st (LoggedReply s moment st request) := by
  cases request with
  | load oid => exact logs_load caller oid
  | create m => exact logs_create rfl rfl caller
  | update m => exact logs_update rfl rfl caller
  | delete oid => exact logs_delete caller oid
  | save m =>
    refine .ite (fun new ↦ ?_) fun old ↦ ?_
    · have asks : (Request.save m).requested = .create := if_pos new
      exact logs_create asks rfl caller
    · have asks : (Request.save m).requested = .update := if_neg old
      exact logs_update asks rfl caller

end

/-- The text of the OID that an answer names. -/
def namedOid? : Answer M.Object → Option String
  | .done success => success.object.oid.map M.oidKind.textOf
  | .rejected r => r.oid

/-- An entry of a service's log tells of an answer: the model's tag, the requested operation, and
the OID that the answer names, if it names one. -/
structure TellsOf (answer : Answer M.Object) (entry : Log.Entry) : Prop where
  target : entry.target = "r01f_application::crud_service"
  tag : entry.field? "model_type" = some (.string M.tag)
  requested : entry.field? "requested" = some (.shown answer.requested.text)
  oid : ∀ text, namedOid? answer = some text →
    ∃ value, entry.field? "oid" = some value ∧ value.content = text

section

variable {settings : Settings} {validate : M.Object → List Violation} {caller : Caller}
  {moment : Moment} {request : Request M} {answer : Answer M.Object} {s : Memory M}

private theorem tellsOf_entry {e : Event} (concerns : e.Concerns M.tag answer.requested)
    (about : ∀ text, namedOid? answer = some text → e.oid? = some text) :
    TellsOf answer e.entry where
  target := concerns.target
  tag := concerns.tag ▸ e.field?_model_type
  requested := Event.field?_requested concerns.requested
  oid text named := ⟨_, Event.field?_oid (about text named), e.content_oidValue text⟩

private theorem tells_of_mem {events : List Event} {e : Event} (he : e ∈ events)
    (concerns : e.Concerns M.tag answer.requested)
    (about : ∀ text, namedOid? answer = some text → e.oid? = some text) :
    ∃ entry ∈ events.map Event.entry, TellsOf answer entry :=
  ⟨e.entry, List.mem_map_of_mem he, tellsOf_entry concerns about⟩

/-- A logged answer is told of, if the store misses nothing and the object of a success has the OID
that was asked for. -/
theorem Logged.tells {store : Store M σ} {requested : Requested} {text : String}
    {events : List Event} (h : Logged store requested text answer events) (whole : ¬store.Misses)
    (own : ∀ success, answer = .done success →
      success.object.oid.map M.oidKind.textOf = some text) :
    ∃ entry ∈ events.map Event.entry, TellsOf answer entry := by
  cases h with
  | missed misses => exact absurd misses whole
  | rejected reason told =>
    obtain ⟨e, he, concerns, oid⟩ := told
    refine tells_of_mem he concerns fun text' named ↦ ?_
    have among : (some text).filter (fun o ↦ o ≠ "") = some text' := named
    rw [oid]
    exact (Option.filter_eq_some_iff.mp among).1
  | @done success _ asks told =>
    obtain ⟨e, he, concerns, oid⟩ := told
    rw [← asks] at concerns
    refine tells_of_mem he concerns fun text' named ↦ ?_
    rw [oid, ← own success rfl]
    exact named

private theorem run_delete_of_absent (writable : settings.readOnly = false) {oid : M.Oid}
    (absent : s.get? oid = none) :
    ((inMemory M settings validate).delete caller oid).run s =
      ⟨.ok (reject M .delete (M.oidKind.textOf oid) .notFound), s, []⟩ := by
  have kept : s.erase oid = s := Memory.erase_of_get?_none absent
  simp only [delete, inMemory, writable, Bool.false_eq_true, if_false]
  rw [Action.run_bind_of (Memory.run_remove oid s), absent, kept]
  rfl

/-- Every answer of a service over a consistent store is told of, but for a deletion that finds
nothing. -/
theorem told_or_vanished (consistent : Memory.Consistent s)
    (answered : (((inMemory M settings validate).serve caller moment request).run s).value =
      .ok answer) :
    (∃ entry ∈ (((inMemory M settings validate).serve caller moment request).run s).events.map
      Event.entry, TellsOf answer entry) ∨
    settings.readOnly = false ∧ ∃ oid, request = .delete oid ∧ s.get? oid = none := by
  have logged := logs_serve (inMemory M settings validate) caller moment request s
  have serves := serves_serve settings validate caller moment request s
  rw [Action.Gives, answered] at logged
  rw [Action.Ends, answered] at serves
  cases logged with
  | unnamed reason told =>
    obtain ⟨e, he, concerns⟩ := told
    refine .inl (tells_of_mem he concerns ?_)
    rintro _ ⟨⟩
  | logged h =>
    refine .inl (h.tells (Memory.not_misses M) ?_)
    rintro success rfl
    rw [serves.own consistent]
    rfl
  | vanished deletes writable removed => exact .inr ⟨writable, _, deletes, Except.ok.inj removed⟩

end

/-- An answered request is logged exactly if it is no deletion that finds nothing. -/
theorem answered_logged (calls : List (Store.Call M)) {settings : Settings}
    {validate : M.Object → List Violation} {caller : Caller} {moment : Moment}
    {request : Request M} {answer : Answer M.Object}
    (answered : (((inMemory M settings validate).serve caller moment request).run
      (Memory.reached calls)).value = .ok answer) :
    let o := ((inMemory M settings validate).serve caller moment request).run
      (Memory.reached calls)
    ((∃ entry ∈ o.events.map Event.entry, TellsOf answer entry) ↔
      ¬(settings.readOnly = false ∧
        ∃ oid, request = .delete oid ∧ (Memory.reached calls).get? oid = none)) ∧
    (settings.readOnly = false → ∀ oid, request = .delete oid →
      (Memory.reached calls).get? oid = none →
      answer = reject M .delete (M.oidKind.textOf oid) .notFound ∧ o.events = []) := by
  have silent : settings.readOnly = false → ∀ oid, request = .delete oid →
      (Memory.reached calls).get? oid = none →
      ((inMemory M settings validate).serve caller moment request).run (Memory.reached calls) =
        ⟨.ok (reject M .delete (M.oidKind.textOf oid) .notFound), Memory.reached calls, []⟩ := by
    rintro writable oid rfl absent
    exact run_delete_of_absent writable absent
  refine ⟨⟨?_, ?_⟩, fun writable oid deletes absent ↦ ?_⟩
  · rintro ⟨entry, member, -⟩ ⟨writable, oid, deletes, absent⟩
    rw [silent writable oid deletes absent] at member
    cases member
  · exact (told_or_vanished (Memory.consistent_reached calls) answered).resolve_right
  · have run := silent writable oid deletes absent
    rw [run] at answered ⊢
    exact ⟨(Except.ok.inj answered).symm, rfl⟩

/-- A load of a note that is not there is told of. -/
theorem answered_logged_note :
    let calls := [.persist (submitted noteA "title" .unsaved)]
    let service := inMemory Catalogue.note .standard fun _ ↦ []
    let moment : Moment := ⟨.epoch, ⟨List.replicate 32 0, by decide⟩⟩
    let missing := reject Catalogue.note .load "b" .notFound
    let o := (service.serve .anonymous moment (.load noteB)).run (Memory.reached calls)
    o.value = .ok missing ∧ ∃ entry ∈ o.events.map Event.entry, TellsOf missing entry := by
  intro calls service moment missing o
  have answered : o.value = .ok missing := by decide +kernel
  have logged := (answered_logged calls answered).1
  refine ⟨answered, logged.mpr ?_⟩
  rintro ⟨-, oid, other, -⟩
  cases other

/-- A deletion of a note that is not there is answered, and nothing is told of it. -/
theorem delete_missing_unlogged :
    let service := inMemory Catalogue.note .standard fun _ ↦ []
    let moment : Moment := ⟨.epoch, ⟨List.replicate 32 0, by decide⟩⟩
    let missing := reject Catalogue.note .delete "a" .notFound
    let o := (service.serve .anonymous moment (.delete noteA)).run (Memory.reached [])
    o.value = .ok missing ∧ ¬∃ entry ∈ o.events.map Event.entry, TellsOf missing entry := by
  refine ⟨rfl, ?_⟩
  rintro ⟨entry, member, -⟩
  cases member

end Service

end VersionedStore
