import VersionedStore.Proofs.Memory.Content
import VersionedStore.Proofs.Registry.SaveBack
import VersionedStore.Proofs.Service.Dialogue
import VersionedStore.Proofs.Service.Log

/-!
# Services that only read

A service in read-only mode declines every request for a change before it has asked its rules or its
store anything. `declined` is the reply, and the request alone decides it: so nothing is written,
and no reply to such a request tells what is stored. Loads do not depend on the mode.
-/

namespace VersionedStore

open Crud

namespace Service

open Crud.Action (Turn after history)

variable {M : Model} {σ : Type}

/-- The reply of a service that only reads to a request for a change: a broken precondition is an
error as ever, and any other request is a bad one. -/
def Request.declined (request : Request M) : Reply M.Object :=
  match request.breaks? with
  | some cause => .error (.illegalState cause)
  | none => .ok (reject M request.requested (request.ownOid?.map M.oidKind.textOf)
      (.badRequest "persistence is in read-only mode"))

private theorem reject_oidText (requested : Requested) (m : M.Object) (reason : Reason) :
    reject M requested m.oidText reason =
      reject M requested (m.oid.map M.oidKind.textOf) reason := by
  rw [Model.Object.oidText]
  cases m.oid <;> rfl

section

variable {request : Request M} {s : Service M σ} {st : σ} {m : M.Object}

/-- A request that breaks a precondition is declined with an error. -/
theorem Request.declined_of_breaks {cause : Precondition} (broken : request.breaks? = some cause) :
    request.declined = .error (.illegalState cause) := by
  rw [declined, broken]

/-- A request that breaks no precondition is declined as a bad one. -/
theorem Request.declined_of_whole (whole : request.breaks? = none) :
    request.declined = .ok (reject M request.requested (request.ownOid?.map M.oidKind.textOf)
      (.badRequest "persistence is in read-only mode")) := by
  rw [declined, whole]

private theorem declines_create (readOnly : s.settings.readOnly = true)
    (asks : request.requested = .create) (breaks : request.breaks? = createBreaks? m)
    (own : request.ownOid? = m.oid) (caller : Caller) (moment : Moment) :
    (s.create caller moment m).Ends st fun t reply ↦ t = st ∧ reply = request.declined := by
  refine .ite (fun stored ↦ ⟨rfl, ?_⟩) fun new ↦
    .ite (fun _ ↦ ⟨rfl, ?_⟩) fun writable ↦ absurd readOnly writable
  · refine (Request.declined_of_breaks (breaks.trans ?_)).symm
    rw [createBreaks?, if_neg (by simpa using stored)]
  · have whole : request.breaks? = none := by
      rw [breaks, createBreaks?, if_pos (by simpa using new)]
    rw [Request.declined_of_whole whole, asks, own, ← reject_oidText]
    rfl

private theorem declines_update (readOnly : s.settings.readOnly = true)
    (asks : request.requested = .update) (breaks : request.breaks? = updateBreaks? m)
    (own : request.ownOid? = m.oid) (caller : Caller) (now : Instant) :
    (s.update caller now m).Ends st fun t reply ↦ t = st ∧ reply = request.declined := by
  unfold update
  rw [updateBreaks?] at breaks
  cases given : m.oid with
  | none =>
    rw [given] at breaks
    exact ⟨rfl, (Request.declined_of_breaks breaks).symm⟩
  | some oid =>
    rw [given] at breaks
    refine .ite (fun new ↦ ⟨rfl, ?_⟩) fun old ↦
      .ite (fun _ ↦ ⟨rfl, ?_⟩) fun writable ↦ absurd readOnly writable
    · exact (Request.declined_of_breaks (breaks.trans (if_pos new))).symm
    · rw [Request.declined_of_whole (breaks.trans (if_neg old)), asks, own, given]
      rfl

private theorem declines_delete (readOnly : s.settings.readOnly = true) (caller : Caller)
    (oid : M.Oid) :
    (s.delete caller oid).Ends st fun t reply ↦ t = st ∧ reply = (Request.delete oid).declined :=
  .ite (fun _ ↦ ⟨rfl, rfl⟩) fun writable ↦ absurd readOnly writable

/-- A service that only reads declines every request for a change, and the state stays. -/
theorem declines_serve (readOnly : s.settings.readOnly = true) (writes : request.requested ≠ .load)
    (caller : Caller) (moment : Moment) (st : σ) :
    (s.serve caller moment request).Ends st fun t reply ↦ t = st ∧ reply = request.declined := by
  cases request with
  | load oid => exact absurd rfl writes
  | create m => exact declines_create readOnly rfl rfl rfl caller moment
  | update m => exact declines_update readOnly rfl rfl rfl caller moment.now
  | delete oid => exact declines_delete readOnly caller oid
  | save m =>
    refine .ite (fun new ↦ ?_) fun old ↦ ?_
    · have asks : (Request.save m).requested = .create := if_pos new
      exact declines_create readOnly asks (if_pos new) rfl caller moment
    · have asks : (Request.save m).requested = .update := if_neg old
      exact declines_update readOnly asks (if_neg old) rfl caller moment.now

end

/-- The reply that a visit is declined with: it asks a service that only reads for a change. -/
def Visit.declined? (v : Visit M) : Option (Reply M.Object) :=
  match v.task with
  | .serve request =>
    if v.settings.readOnly ∧ request.requested ≠ .load then some request.declined else none
  | .loadAll => none

/-- A visit that is declined is given this reply, and the state stays. -/
theorem Visit.ends_declined {v : Visit M} {reply : Reply M.Object}
    (declined : v.declined? = some reply) (store : Store M σ) (st : σ) :
    (v.answer store).Ends st fun t given ↦ t = st ∧ given = .reply reply := by
  obtain ⟨settings, validate, caller, moment, task⟩ := v
  cases task with
  | loadAll => cases declined
  | serve request =>
    obtain ⟨⟨readOnly, writes⟩, same⟩ := Option.ite_none_right_eq_some.mp declined
    cases same
    obtain ⟨left, value⟩ :=
      declines_serve (s := ⟨store, settings, validate⟩) readOnly writes caller moment st
    exact ⟨left, congrArg Given.reply value⟩

/-- Leaving the declined visits out of a run changes neither what the others are given nor the state
that is left. -/
theorem run_without_declined (store : Store M σ) (visits : List (Visit M)) (st : σ) :
    let others := visits.filter fun v ↦ v.declined?.isNone
    (history (Visit.answer store) visits st).filter (fun turn ↦ turn.asked.declined?.isNone) =
      history (Visit.answer store) others st ∧
    after (Visit.answer store) visits st = after (Visit.answer store) others st := by
  induction visits generalizing st with
  | nil => exact ⟨rfl, rfl⟩
  | cons v visits ih =>
    obtain ⟨given, left⟩ := ih ((v.answer store).run st).state
    cases declined : v.declined? with
    | none =>
      simp only [history, after, List.filter_cons, declined, Option.isNone_none, if_true]
      exact ⟨congrArg (List.cons _) given, left⟩
    | some reply =>
      have stays : ((v.answer store).run st).state = st := (Visit.ends_declined declined store st).1
      simp only [history, after, List.filter_cons, declined, Option.isNone_some, Bool.false_eq_true,
        if_false]
      rw [stays] at given left ⊢
      exact ⟨given, left⟩

/-- What the declined visits of a run are given. -/
def declinedGivens (turns : List (Turn (Visit M) (Given M))) : List (Given M) :=
  (turns.filter fun turn ↦ turn.asked.declined?.isSome).map Turn.given

/-- The declined visits of a run are given the replies that they are declined with. -/
theorem declinedGivens_history (store : Store M σ) (visits : List (Visit M)) (st : σ) :
    declinedGivens (history (Visit.answer store) visits st) =
      (visits.filterMap Visit.declined?).map Given.reply := by
  induction visits generalizing st with
  | nil => rfl
  | cons v visits ih =>
    have rest := ih ((v.answer store).run st).state
    rw [declinedGivens] at rest ⊢
    cases declined : v.declined? with
    | none =>
      simp only [history, List.filter_cons, declined, Option.isSome_none, Bool.false_eq_true,
        if_false, List.filterMap_cons]
      exact rest
    | some reply =>
      have given : ((v.answer store).run st).value = .reply reply :=
        (Visit.ends_declined declined store st).2
      simp only [history, List.filter_cons, declined, Option.isSome_some, if_true, List.map_cons,
        List.filterMap_cons, given, rest]

/-- The same visit under other rules. -/
def Visit.withRules (rules : M.Object → List Violation) (v : Visit M) : Visit M :=
  { v with validate := rules }

end Service

namespace Message

variable {M : Model} {message : Message}

/-- The reply of a service that only reads to a message that asks for a change. -/
def declined (M : Model) (message : Message) : Reply Document :=
  match message.read M with
  | .ok request => request.declined.toDocument
  | .error r => .ok (.rejected r)

/-- A message is declined with an error if it stands for a request that breaks a precondition, and
as a bad request otherwise. -/
theorem declined_cases (M : Model) (message : Message) :
    (∃ request cause, message.read M = .ok request ∧ request.breaks? = some cause ∧
      message.declined M = .error (.illegalState cause)) ∨
    (∀ request, message.read M = .ok request → request.breaks? = none) ∧
      ∃ r reason, message.declined M = .ok (.rejected r) ∧ r.reason = .badRequest reason := by
  rw [declined]
  cases read : message.read M with
  | error r =>
    obtain ⟨requested, oid, reason, rfl⟩ := rejection_of_read read
    exact .inr ⟨fun _ h ↦ (nomatch h), _, reason, rfl, rfl⟩
  | ok request =>
    cases broken : request.breaks? with
    | some cause =>
      refine .inl ⟨request, cause, rfl, broken, ?_⟩
      simp only [Service.Request.declined_of_breaks broken]
      rfl
    | none =>
      refine .inr ⟨fun _ same ↦ Except.ok.inj same ▸ broken, ?_⟩
      simp only [Service.Request.declined_of_whole broken]
      exact ⟨_, _, rfl, rfl⟩

private theorem requested_of_read {request : Service.Request M}
    (writes : ∀ text, message ≠ .load text)
    (read : message.read M = .ok request) : request.requested ≠ .load := by
  cases message with
  | load text => exact absurd rfl (writes text)
  | save d =>
    obtain ⟨m, -, rfl⟩ := ok_of_map read
    rw [Service.Request.requested]
    split <;> nofun
  | delete text =>
    obtain ⟨oid, -, rfl⟩ := ok_of_map read
    nofun

end Message

namespace Service

variable {M : Model} {σ : Type} {message : Message}

private theorem declines_answerMessage {s : Service M σ} (readOnly : s.settings.readOnly = true)
    (writes : ∀ text, message ≠ .load text) (caller : Caller) (moment : Moment) (st : σ) :
    (s.answerMessage caller moment message).Ends st fun t reply ↦
      t = st ∧ reply = message.declined M := by
  rw [Message.declined]
  cases read : message.read M with
  | error r =>
    obtain ⟨events, run⟩ := run_answerMessage_of_unread read s caller moment st
    rw [Action.Ends, run]
    exact ⟨rfl, rfl⟩
  | ok request =>
    have stands : message.request? M = some request := by
      rw [← message.toOption_read, read]
      rfl
    have asks : request.requested ≠ .load := Message.requested_of_read writes read
    obtain ⟨left, value⟩ := declines_serve readOnly asks caller moment st
    rw [answerMessage_of_request stands]
    exact .map ⟨left, congrArg Reply.toDocument value⟩

end Service

namespace Registry

open Service (Request Visit declinedGivens)

variable {M : Model} {σ : Type}

private theorem send_declined {r : Registry} (sound : r.Sound) {tag : String} {s : Service M σ}
    {st : σ}
    (there : r.get? tag = some ⟨M, σ, s, st⟩) (readOnly : s.settings.readOnly = true)
    {message : Message} (writes : ∀ text, message ≠ .load text) (caller : Caller)
    (moment : Moment) :
    let o := send tag caller moment message r
    o.state = r ∧ o.value = message.declined M := by
  obtain ⟨left, value⟩ := Service.declines_answerMessage readOnly writes caller moment st
  rw [send_of_registered there]
  refine ⟨?_, value⟩
  rw [left]
  exact sound.put_of_get? there

/-- Read-only mode neither writes nor leaks. Whatever its store and rules, whoever asks and when, a
service in this mode leaves every state as it is when it is asked for a change, and gives the reply
that the request alone decides: an error for a broken precondition on version and OID, and a bad
request otherwise. The same holds of the messages that ask for a change, also when they are sent
through a registry. So over any run of visits the replies to requests for a change, made to services
in this mode, depend neither on the state at first nor on rules, and without these requests the run
is the same. Loads are the same whatever the settings and rules. -/
theorem read_only_declines (s : Service M σ) (readOnly : s.settings.readOnly = true) :
    (∀ caller moment (request : Request M) st, request.requested ≠ .load →
      let o := (s.serve caller moment request).run st
      o.state = st ∧ o.value = request.declined) ∧
    (∀ caller moment message st, (∀ text, message ≠ .load text) →
      let o := (s.answerMessage caller moment message).run st
      o.state = st ∧ o.value = message.declined M) ∧
    (∀ calls tag st, (reached calls).get? tag = some ⟨M, σ, s, st⟩ →
      ∀ caller moment message, (∀ text, message ≠ .load text) →
      let o := send tag caller moment message (reached calls)
      o.state = reached calls ∧ o.value = message.declined M) ∧
    (∀ message : Message,
      (∃ request cause, message.read M = .ok request ∧ request.breaks? = some cause ∧
        message.declined M = .error (.illegalState cause)) ∨
      (∀ request, message.read M = .ok request → request.breaks? = none) ∧
        ∃ r reason, message.declined M = .ok (.rejected r) ∧ r.reason = .badRequest reason) ∧
    (∀ (visits : List (Visit M)) st,
      let turns := Action.history (Visit.answer s.store) visits st
      let others := visits.filter fun v ↦ v.declined?.isNone
      declinedGivens turns = (visits.filterMap Visit.declined?).map .reply ∧
      (∀ (rules : Visit M → M.Object → List Violation) other,
        let ruled := visits.map fun v ↦ v.withRules (rules v)
        declinedGivens (Action.history (Visit.answer s.store) ruled other) = declinedGivens turns) ∧
      turns.filter (fun turn ↦ turn.asked.declined?.isNone) =
        Action.history (Visit.answer s.store) others st ∧
      Action.after (Visit.answer s.store) visits st =
        Action.after (Visit.answer s.store) others st) ∧
    ∀ settings validate caller,
      let other : Service M σ := ⟨s.store, settings, validate⟩
      s.load caller = other.load caller ∧ s.loadJson caller = other.loadJson caller ∧
        s.loadAll caller = other.loadAll caller := by
  refine ⟨fun caller moment request st writes ↦
      Service.declines_serve readOnly writes caller moment st,
    fun caller moment message st writes ↦
      Service.declines_answerMessage readOnly writes caller moment st,
    fun calls tag st there caller moment message writes ↦
      send_declined (sound_reached calls) there readOnly writes caller moment,
    Message.declined_cases M, fun visits st ↦ ?_, fun settings validate caller ↦ ⟨rfl, rfl, rfl⟩⟩
  have told (visits : List (Visit M)) (st : σ) :=
    Service.declinedGivens_history s.store visits st
  refine ⟨told visits st, fun rules other ↦ ?_, Service.run_without_declined s.store visits st⟩
  intro ruled
  rw [told ruled, told visits, List.filterMap_map]
  rfl

/-- Notes that are only read: a create is declined alike whether the note is there or not, and a new
note is no update. -/
theorem read_only_declines_notes :
    let settings : Settings := { Settings.standard with readOnly := true }
    let s := Service.inMemory Catalogue.note settings fun _ ↦ []
    let create := Request.create (Memory.submitted Memory.noteA "title" .unsaved)
    let update := Request.update (Memory.submitted Memory.noteA "title" .unsaved)
    settings.readOnly = true ∧
    ((s.serve .anonymous atEpoch create).run Memory.noteShelf).value =
      .ok (Service.reject Catalogue.note .create (some "a")
        (.badRequest "persistence is in read-only mode")) ∧
    ((s.serve .anonymous atEpoch create).run Memory.noteShelf).value =
      ((s.serve .anonymous atEpoch create).run (.empty _)).value ∧
    ((s.serve .anonymous atEpoch update).run Memory.noteShelf).value =
      .error (.illegalState (.updateOfNew "note" "a")) := by
  intro settings s create update
  obtain ⟨served, -⟩ := read_only_declines s rfl
  have created := served .anonymous atEpoch create Memory.noteShelf (by decide)
  have missing := served .anonymous atEpoch create (.empty _) (by decide)
  have updated := served .anonymous atEpoch update Memory.noteShelf (by decide)
  exact ⟨rfl, created.2, created.2.trans missing.2.symm, updated.2⟩

end Registry

end VersionedStore
