import Mathlib.Logic.Function.Basic
import VersionedStore.Proofs.Service.Log

/-!
# The write log

An entry notes a write if it tells at level info that something was performed, and a log of such
entries replays to texts of versions under texts of OIDs. `Notes` says which of its events an action
makes note a write. Every function of the service is run once, over any store that leaves the noting
to the service, to show that a request is noted exactly as its reply says. What is noted is what
happens to the store, so the log of any visits replays to the store that they leave.
-/

namespace VersionedStore

open Crud

/-- Versions that are shown alike are equal. -/
theorem Version.text_injective {v w : Version} (h : v.text = w.text) : v = w := by
  apply Version.ext
  apply Text.Decimal.digits_injective
  have digits := congrArg String.toList h
  simpa [Version.text, Text.Decimal.ofNat] using digits

namespace Log

/-- What a value says, without quotes. -/
def Value.content : Value → String
  | .string s => s
  | .shown text => text
  | .number n => Text.Decimal.ofNat n

namespace Entry

/-- The requested and the performed operation that the entry tells. -/
def operations (e : Entry) : Option Value × Option Value :=
  (e.field? "requested", e.field? "performed")

/-- Does the entry tell at level info that something was performed? -/
def notesWrite (e : Entry) : Bool := e.level = .info && (e.field? "performed").isSome

/-- What is told of versions when the entry has been taken into account. -/
def replayOn (told : String → Option String) (e : Entry) : String → Option String :=
  match e.field? "oid", e.field? "performed" with
  | some oid, some performed =>
    if performed.content = "created" ∨ performed.content = "updated" then
      Function.update told oid.content ((e.field? "version").map Value.content)
    else if performed.content = "deleted" then Function.update told oid.content none
    else told
  | _, _ => told

end Entry

/-- Replay the writes that a log notes: what it tells of versions in the end. -/
def replay (log : List Entry) : String → Option String :=
  (log.filter Entry.notesWrite).foldl Entry.replayOn fun _ ↦ none

end Log

namespace Crud

/-- The events that note writes. -/
def Event.noted (events : List Event) : List Event := events.filter fun e ↦ e.entry.notesWrite

/-- What is noted first and what is noted then. -/
theorem Event.noted_append (events more : List Event) :
    noted (events ++ more) = noted events ++ noted more :=
  List.filter_append events more

/-- A log has the entries of the events that note writes. -/
theorem Event.filter_entry (events : List Event) :
    (events.map Event.entry).filter Log.Entry.notesWrite = (noted events).map Event.entry :=
  List.filter_map

/-- The operations of a request that was served, as an entry tells them. -/
def Success.operations {α : Type} (s : Success α) : Option Log.Value × Option Log.Value :=
  (some (.shown s.requested.text), some (.string s.performed.text))

namespace Action

variable {σ α β : Type}

/-- The action notes no writes. -/
def Quiet (x : Action σ α) : Prop := ∀ s, Event.noted (x.run s).events = []

/-- The events with which the action notes writes are the ones that go with its value. -/
def Notes (x : Action σ α) (notes : α → List Event) : Prop :=
  ∀ s, Event.noted (x.run s).events = notes (x.run s).value

/-- After a quiet action, what follows it notes the writes. -/
theorem Notes.bind {x : Action σ α} (quiet : x.Quiet) {f : α → Action σ β}
    {notes : β → List Event} (rest : ∀ a, (f a).Notes notes) : (x >>= f).Notes notes := by
  intro s
  rw [run_bind, Event.noted_append, quiet s]
  exact rest _ _

/-- Giving the value of an action in another form notes the same. -/
theorem Notes.map {x : Action σ α} {g : α → β} {notes : β → List Event}
    (h : x.Notes fun a ↦ notes (g a)) : (do return g (← x)).Notes notes := by
  intro s
  rw [run_bind, run_pure, List.append_nil]
  exact h s

/-- A choice between actions notes what the chosen one does. -/
theorem Notes.ite {c : Prop} [Decidable c] {x y : Action σ α} {notes : α → List Event}
    (yes : x.Notes notes) (no : y.Notes notes) : (if c then x else y).Notes notes := by
  by_cases h : c
  · rwa [if_pos h]
  · rwa [if_neg h]

end Action

end Crud

/-- The operations of a store leave it to the service to note writes. -/
structure Store.Quiet {M : Model} {σ : Type} (store : Store M σ) : Prop where
  find : ∀ oid, (store.find oid).run.Quiet
  contains : ∀ oid, (store.contains oid).run.Quiet
  findAll : store.findAll.run.Quiet
  persist : ∀ m, (store.persist m).run.Quiet
  merge : ∀ m, (store.merge m).run.Quiet
  remove : ∀ oid, (store.remove oid).run.Quiet

/-- The store in memory leaves it to the service to note writes. -/
theorem Memory.quiet_store (M : Model) : (Memory.store M).Quiet where
  find _ _ := rfl
  contains _ _ := rfl
  findAll _ := rfl
  persist m s := by
    obtain ⟨failure, -, h⟩ | ⟨oid, -, h⟩ := persist_cases m s
    · exact congrArg (fun o ↦ Event.noted o.events) h
    · exact congrArg (fun o ↦ Event.noted o.events) h
  merge m s := by
    obtain ⟨failure, -, h⟩ | ⟨oid, stored, -, -, h⟩ | ⟨oid, stored, version, -, h⟩ :=
      merge_cases m s
    · exact congrArg (fun o ↦ Event.noted o.events) h
    · exact congrArg (fun o ↦ Event.noted o.events) h
    · exact congrArg (fun o ↦ Event.noted o.events) h
  remove _ _ := rfl

namespace Service

open Memory (Consistent remaining)

variable {M : Model} {σ : Type}

/-- The event that notes what an answer says was written under an OID. -/
def note (oid : String) (correlation : Option String) : Answer M.Object → List Event
  | .done ⟨requested, .created, m⟩ => [.created M.tag oid requested m.version correlation]
  | .done ⟨_, .updated, m⟩ => [.updated M.tag oid m.version correlation]
  | .done ⟨_, .deleted, _⟩ => [.deleted M.tag oid correlation]
  | .done ⟨_, .loaded, _⟩ | .done ⟨_, .notModified, _⟩ | .rejected _ => []

/-- The event that notes what a reply says was written under an OID. -/
def noteReply (oid : String) (correlation : Option String) : Reply M.Object → List Event
  | .ok answer => note oid correlation answer
  | .error _ => []

section

variable {store : Store M σ} {settings : Settings} {validate : M.Object → List Violation}
  {correlation : Option String} {m : M.Object} {oid : M.Oid}

private theorem notes_answerFailure (requested : Requested) (text text' : String)
    (failure : Failure) :
    (answerFailure M requested text failure : Action σ _).Notes (note text' correlation) := by
  cases failure <;> exact fun _ ↦ rfl

private theorem notes_insert (quiet : store.Quiet) (caller : Caller) (now : Instant)
    (requested : Requested) (m : M.Object) :
    ((Service.mk store settings validate).insert caller now requested m).Notes
      (note m.oidText caller.correlation) := by
  refine .bind (quiet.persist _) fun stored ↦ ?_
  cases stored with
  | ok stored => exact fun _ ↦ rfl
  | error failure => exact notes_answerFailure _ _ _ failure

private theorem notes_createAt (quiet : store.Quiet) (caller : Caller) (now : Instant)
    (own : m.oid = some oid) :
    ((Service.mk store settings validate).createAt caller now oid m).Notes
      (note (M.oidKind.textOf oid) caller.correlation) := by
  refine .bind (quiet.contains oid) fun there ↦ ?_
  match there with
  | .error failure => exact notes_answerFailure _ _ _ failure
  | .ok true => exact fun _ ↦ rfl
  | .ok false =>
    simp only
    cases validate m with
    | nil =>
      rw [← Model.Object.oidText_of_oid own]
      exact notes_insert quiet caller now .create m
    | cons violation more => exact fun _ ↦ rfl

private theorem notes_create (quiet : store.Quiet) (caller : Caller) (moment : Moment)
    (m : M.Object) :
    ((Service.mk store settings validate).create caller moment m).Notes
      (noteReply (M.oidKind.textOf (Request.oid moment (.create m))) caller.correlation) := by
  refine .ite (fun _ ↦ rfl) <| .ite (fun _ ↦ rfl) ?_
  rw [Request.oid]
  cases own : m.oid with
  | some oid => exact .map (notes_createAt quiet caller moment.now own)
  | none =>
    refine .ite (fun _ ↦ rfl) <| .bind (fun _ ↦ rfl) fun _ ↦ ?_
    exact .map (notes_createAt quiet caller moment.now rfl)

private theorem notes_replace (quiet : store.Quiet) (caller : Caller) (now : Instant) (oid : M.Oid)
    (m : M.Object) :
    ((Service.mk store settings validate).replace caller now oid m).Notes
      (note (M.oidKind.textOf oid) caller.correlation) := by
  refine .bind (quiet.merge _) fun merged ↦ ?_
  match merged with
  | .ok (.updated _) | .ok (.notModified _) => exact fun _ ↦ rfl
  | .error failure => exact notes_answerFailure _ _ _ failure

private theorem notes_updateAt (quiet : store.Quiet) (caller : Caller) (now : Instant)
    (own : m.oid = some oid) :
    ((Service.mk store settings validate).updateAt caller now oid m).Notes
      (note (M.oidKind.textOf oid) caller.correlation) := by
  simp only [updateAt]
  cases validate m with
  | cons violation more => exact fun _ ↦ rfl
  | nil =>
    refine .bind (quiet.contains oid) fun there ↦ ?_
    cases there with
    | error failure => exact notes_answerFailure _ _ _ failure
    | ok there =>
      cases there with
      | true => exact notes_replace quiet caller now oid m
      | false =>
        -- The conversion is told at level info, but says of nothing that it was performed.
        refine .ite (.bind (fun _ ↦ rfl) fun _ ↦ ?_) fun _ ↦ rfl
        rw [← Model.Object.oidText_of_oid own]
        exact notes_insert quiet caller now .update m

private theorem notes_update (quiet : store.Quiet) (caller : Caller) (moment : Moment)
    (m : M.Object) :
    ((Service.mk store settings validate).update caller moment.now m).Notes
      (noteReply (M.oidKind.textOf (Request.oid moment (.update m))) caller.correlation) := by
  simp only [update, Request.oid]
  cases own : m.oid with
  | none => exact fun _ ↦ rfl
  | some oid =>
    refine .ite (fun _ ↦ rfl) <| .ite (fun _ ↦ rfl) ?_
    exact .map (notes_updateAt quiet caller moment.now own)

private theorem notes_delete (quiet : store.Quiet) (caller : Caller) (oid : M.Oid) :
    ((Service.mk store settings validate).delete caller oid).Notes
      (noteReply (M.oidKind.textOf oid) caller.correlation) := by
  refine .ite (fun _ ↦ rfl) <| .bind (quiet.remove oid) fun removed ↦ ?_
  match removed with
  | .ok (some _) | .ok none => exact fun _ ↦ rfl
  | .error failure => exact .map (notes_answerFailure _ _ _ failure)

private theorem notes_load (quiet : store.Quiet) (caller : Caller) (oid : M.Oid) :
    ((Service.mk store settings validate).load caller oid).Notes
      (noteReply (M.oidKind.textOf oid) caller.correlation) := by
  refine .bind (quiet.find oid) fun found ↦ ?_
  match found with
  | .ok (some _) | .ok none => exact fun _ ↦ rfl
  | .error failure => cases failure <;> exact fun _ ↦ rfl

/-- Every request is noted as its reply says. -/
theorem notes_serve (quiet : store.Quiet) (caller : Caller) (moment : Moment)
    (request : Request M) :
    ((Service.mk store settings validate).serve caller moment request).Notes
      (noteReply (M.oidKind.textOf (request.oid moment)) caller.correlation) := by
  cases request with
  | load oid => exact notes_load quiet caller oid
  | create m => exact notes_create quiet caller moment m
  | update m => exact notes_update quiet caller moment m
  | save m => exact .ite (notes_create quiet caller moment m) (notes_update quiet caller moment m)
  | delete oid => exact notes_delete quiet caller oid

private theorem notes_loadAll (quiet : store.Quiet) (caller : Caller) :
    ((Service.mk store settings validate).loadAll caller).Notes fun _ ↦ [] := by
  refine .bind quiet.findAll fun listed ↦ ?_
  cases listed <;> exact fun _ ↦ rfl

end

/-- The event that notes what a visit is given. -/
def Visit.note (v : Visit M) : Given M → List Event
  | .listing _ => []
  | .reply reply =>
    match v.task with
    | .serve request =>
      noteReply (M.oidKind.textOf (request.oid v.moment)) v.caller.correlation reply
    | .loadAll => []

/-- Every visit is noted as what it is given says. -/
theorem notes_answer {store : Store M σ} (quiet : store.Quiet) (v : Visit M) :
    (v.answer store).Notes v.note := by
  obtain ⟨settings, validate, caller, moment, task⟩ := v
  cases task with
  | serve request => exact .map (notes_serve quiet caller moment request)
  | loadAll => exact .map (notes_loadAll quiet caller)

/-- The success that what was given reports, if it is a write. -/
def Given.write? : Given M → Option (Success M.Object)
  | .reply (.ok (.done success)) => if success.performed.isWrite then some success else none
  | .reply (.ok (.rejected _)) | .reply (.error _) | .listing _ => none

variable {v : Visit M} {s t : Memory M} {given : Given M} {told : String → Option String}

private theorem Attends.operations_note (h : Attends v s t given) :
    ((v.note given).map Event.entry).map Log.Entry.operations =
      given.write?.toList.map Success.operations := by
  cases h with
  | listed => rfl
  | served task serves =>
    simp only [Visit.note, task]
    cases serves <;> rfl

private theorem Visit.note_of_idle (idle : given.isWrite = false) : v.note given = [] := by
  match given with
  | .listing _ => rfl
  | .reply reply =>
    unfold Visit.note
    match v.task, reply with
    | .loadAll, _ | .serve _, .error _ | .serve _, .ok (.rejected _)
    | .serve _, .ok (.done ⟨_, .loaded, _⟩) | .serve _, .ok (.done ⟨_, .notModified, _⟩) => rfl
    | .serve _, .ok (.done ⟨_, .created, _⟩) | .serve _, .ok (.done ⟨_, .updated, _⟩)
    | .serve _, .ok (.done ⟨_, .deleted, _⟩) => cases idle

/-- What is told of versions is what a store holds: under the texts of OIDs, the texts of the
versions of its objects. -/
structure Told (told : String → Option String) (s : Memory M) : Prop where
  stored : ∀ oid, told (M.oidKind.textOf oid) = (s.get? oid).map fun m ↦ m.version.text
  nothingElse : ∀ text, (∀ oid : M.Oid, M.oidKind.textOf oid ≠ text) → told text = none

/-- The note of a write replays to what the write leaves under the OID. -/
theorem replay_note {success : Success M.Object} (write : success.performed.isWrite = true)
    (oid : String) (correlation : Option String) :
    ((note oid correlation (.done success)).map Event.entry).foldl Log.Entry.replayOn told =
      Function.update told oid ((remaining success).map fun m ↦ m.version.text) := by
  match success with
  | ⟨_, .created, _⟩ | ⟨_, .updated, _⟩ | ⟨_, .deleted, _⟩ => rfl
  | ⟨_, .loaded, _⟩ | ⟨_, .notModified, _⟩ => cases write

/-- The note of a visit replays to the store that the visit leaves. -/
theorem Attends.replays (h : Attends v s t given) (consistent : Consistent s)
    (holds : Told told s) :
    Told (((v.note given).map Event.entry).foldl Log.Entry.replayOn told) t := by
  cases writes : given.isWrite with
  | false =>
    rw [Visit.note_of_idle writes, h.same writes]
    exact holds
  | true =>
    cases h with
    | listed => cases writes
    | @served request _ reply task serves =>
      match reply with
      | .error _ | .ok (.rejected _) => cases writes
      | .ok (.done success) =>
        simp only [Visit.note, task, noteReply]
        rw [replay_note writes]
        constructor
        · intro oid
          by_cases same : oid = request.oid v.moment
          · rw [same, Function.update_self,
              (Memory.get?_of_accounts consistent.keys (serves.accounts consistent)).2]
          · rw [Function.update_of_ne fun h ↦ same (OidKind.textOf_injective h),
              serves.get?_ne same]
            exact holds.stored oid
        · intro text other
          rw [Function.update_of_ne (other _).symm]
          exact holds.nothingElse text other

/-- What visits note replays, from what a store holds, to the store that they leave. -/
theorem told_attend (visits : List (Visit M)) (consistent : Consistent s) (holds : Told told s) :
    Told (((Event.noted ((attend (Memory.store M) visits).run s).events).map
        Event.entry).foldl Log.Entry.replayOn told)
      ((attend (Memory.store M) visits).run s).state := by
  induction visits generalizing s told with
  | nil => exact holds
  | cons v visits ih =>
    have attends : Attends v s _ _ := attends_answer v s
    -- What is told after the first visit is what its store holds, so the others go on from there.
    have rest := ih (attends.consistent consistent) (attends.replays consistent holds)
    rw [← notes_answer (Memory.quiet_store M) v s, ← List.foldl_append, ← List.map_append,
      ← Event.noted_append] at rest
    rw [attend, Action.run_bind, Action.run_bind, Action.run_pure, List.append_nil]
    exact rest

/-- The log replays to the store. Whatever visits are made to services that share an empty store in
memory, replaying the entries that tell at level info that something was performed gives, for the
text of each OID, the version of the object that is stored under it in the end, and nothing for any
other text. From any store, a visit makes such an entry exactly if it is given a write, and then one
which tells the operations that the write reports. -/
theorem log_replays (visits : List (Visit M)) :
    let outcome := (attend (Memory.store M) visits).run (.empty M)
    let told := Log.replay (outcome.events.map Event.entry)
    (∀ oid version, told (M.oidKind.textOf oid) = some (Version.text version) ↔
      ∃ m, outcome.state.get? oid = some m ∧ m.version = version) ∧
    (∀ text, (∀ oid m, outcome.state.get? oid = some m → M.oidKind.textOf oid ≠ text) →
      told text = none) ∧
    ∀ (v : Visit M) (s : Memory M),
      let answered := (v.answer (Memory.store M)).run s
      ((answered.events.map Event.entry).filter Log.Entry.notesWrite).map Log.Entry.operations =
        answered.value.write?.toList.map Success.operations := by
  intro outcome told
  have holds : Told told outcome.state := by
    have start : Told (fun _ ↦ none) (Memory.empty M) := ⟨fun _ ↦ rfl, fun _ _ ↦ rfl⟩
    have replayed := told_attend visits Memory.consistent_empty start
    rwa [← Event.filter_entry] at replayed
  refine ⟨fun oid version ↦ ?_, fun text other ↦ ?_, fun v s ↦ ?_⟩
  · rw [holds.stored, Option.map_eq_some_iff]
    constructor
    · rintro ⟨m, there, shown⟩
      exact ⟨m, there, Version.text_injective shown⟩
    · rintro ⟨m, there, rfl⟩
      exact ⟨m, there, rfl⟩
  · by_cases named : ∃ oid : M.Oid, M.oidKind.textOf oid = text
    · obtain ⟨oid, rfl⟩ := named
      rw [holds.stored]
      cases there : outcome.state.get? oid with
      | none => rfl
      | some m => exact absurd rfl (other oid m there)
    · exact holds.nothingElse text fun oid h ↦ named ⟨oid, h⟩
  · intro answered
    rw [Event.filter_entry, notes_answer (Memory.quiet_store M) v s]
    exact (attends_answer v s).operations_note

end Service

end VersionedStore
