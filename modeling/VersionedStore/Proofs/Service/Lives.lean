import VersionedStore.Proofs.Service.Log
import VersionedStore.Proofs.Service.Sound

/-!
# The lives that a log tells

A life of an object begins with the turn that reports its creation and ends with the one that
reports its deletion. `Traced` reads off a log where a stored object comes from: the turn that began
its life stamped its creation, the updates since count its version, and the last write stamped its
last change. So tracking is an audit trail, and a version is met again only by a later life that has
counted as far.
-/

namespace VersionedStore

open Crud

namespace Service

open Crud.Action (Turn after history)
open Memory (Consistent noteA reached submitted)

variable {M : Model}

/-- The turns tell where the object under an OID comes from: which turn began its life and which one
wrote it last. -/
structure Traced (turns : List (Turn (Visit M) (Given M))) (oid : M.Oid) (m : M.Object) :
    Prop where
  begun : ∃ creation life, LastWith (did oid Performed.boundsLife) turns creation life ∧
    creation.given.performed? oid = some .created ∧
    m.tracking.createdAt = some creation.asked.moment.now ∧
    m.tracking.createdBy = creation.asked.caller.user ∧
    m.version.number.val = 1 + life.countP (did oid (· = .updated))
  written : ∃ write later, LastWith (did oid Performed.isWrite) turns write later ∧
    (write.given.performed? oid = some .created ∨ write.given.performed? oid = some .updated) ∧
    m.tracking.updatedAt = some write.asked.moment.now ∧
    m.tracking.updatedBy = write.asked.caller.user

variable {turns : List (Turn (Visit M) (Given M))} {oid : M.Oid} {m : M.Object} {v : Visit M}
  {given : Given M}

/-- A turn that does not write under an OID leaves no trace. -/
theorem Traced.spared (h : Traced turns oid m)
    (idle : (given.performed? oid).any Performed.isWrite = false) :
    Traced (turns ++ [⟨v, given⟩]) oid m where
  begun := by
    obtain ⟨creation, life, last, created, at', by', counted⟩ := h.begun
    have unbounded : did oid Performed.boundsLife ⟨v, given⟩ = false :=
      did_eq_false idle fun _ ↦ Performed.isWrite_of_boundsLife
    have uncounted : did oid (· = .updated) ⟨v, given⟩ = false := by
      apply did_eq_false idle
      intro p updated
      rw [of_decide_eq_true updated]
      rfl
    refine ⟨creation, life ++ [⟨v, given⟩], last.append unbounded, created, at', by', ?_⟩
    rw [List.countP_append, List.countP_singleton, uncounted]
    exact counted
  written := by
    obtain ⟨write, later, last, kept, at', by'⟩ := h.written
    exact ⟨write, later ++ [⟨v, given⟩], last.append (did_eq_false idle fun _ h ↦ h), kept, at',
      by'⟩

private theorem traced_created (told : given.performed? oid = some .created) (m : M.Object)
    (numericId : Word 64) :
    Traced (turns ++ [⟨v, given⟩]) oid
      ((m.stampedNew v.caller v.moment.now).entering numericId) where
  begun := ⟨⟨v, given⟩, [], .concat turns (did_eq told _), told, rfl, rfl, rfl⟩
  written := ⟨⟨v, given⟩, [], .concat turns (did_eq told _), .inl told, rfl, rfl⟩

/-- A turn that reports an update counts one version on and stamps the change. -/
theorem Traced.updated {stored : M.Object} (h : Traced turns oid stored)
    (told : given.performed? oid = some .updated) (m : M.Object) {version : Version}
    (next : stored.version.next? = some version) :
    Traced (turns ++ [⟨v, given⟩]) oid
      ((m.stampedChanged v.caller v.moment.now).succeeding stored version) where
  begun := by
    obtain ⟨creation, life, last, created, at', by', counted⟩ := h.begun
    refine ⟨creation, life ++ [⟨v, given⟩], last.append (did_eq told _), created, at', by', ?_⟩
    have one := Version.number_of_next? next
    rw [counted] at one
    rw [List.countP_append, List.countP_singleton, did_eq told]
    exact one
  written := ⟨⟨v, given⟩, [], .concat turns (did_eq told _), .inr told, rfl, rfl⟩

/-- A turn touches the object under an OID so that its origin stays told. -/
theorem Touches.traced {found left : Option M.Object}
    (h : Touches v found (given.performed? oid) left)
    (ih : ∀ m, found = some m → Traced turns oid m) :
    ∀ m, left = some m → Traced (turns ++ [⟨v, given⟩]) oid m := by
  intro m there
  generalize told : given.performed? oid = performed at h
  cases h with
  | spared idle =>
    rw [← told] at idle
    exact (ih m there).spared idle
  | created n numericId =>
    cases there
    exact traced_created told n numericId
  | updated n next =>
    cases there
    exact (ih _ rfl).updated told n next
  | deleted => cases there

/-- Visits keep a store consistent, and their turns trace every object in the end that was not there
at first. -/
theorem traced_after {s : Memory M} (consistent : Consistent s) (visits : List (Visit M)) :
    Consistent (after (Visit.answer (Memory.store M)) visits s) ∧
    ∀ oid, s.get? oid = none →
      ∀ m, (after (Visit.answer (Memory.store M)) visits s).get? oid = some m →
        Traced (history (Visit.answer (Memory.store M)) visits s) oid m := by
  refine Action.history_induction (P := fun turns t ↦ Consistent t ∧ ∀ oid, s.get? oid = none →
    ∀ m, t.get? oid = some m → Traced turns oid m) ⟨consistent, ?_⟩ ?_ visits
  · intro oid free m there
    rw [free] at there
    cases there
  · rintro turns t v ⟨consistent, traced⟩
    have attends := attends_answer v t
    refine ⟨attends.consistent consistent, fun oid free ↦ ?_⟩
    exact (attends.touches consistent oid).traced (traced oid free)

/-- Tracking is an audit trail. After any visits to services that share an empty store in memory,
whoever called, whatever tracking was submitted and whatever the clocks showed, a stored object has
its creation from the visit that reported the creation of its present life, and its last change from
the last visit that reported its creation or an update, which was not before. A visit that is not
given a write leaves the store as it was. -/
theorem audit_trail (visits : List (Visit M)) {oid : M.Oid} {m : M.Object}
    (present : (after (Visit.answer (Memory.store M)) visits (.empty M)).get? oid = some m) :
    let s := after (Visit.answer (Memory.store M)) visits (.empty M)
    let turns := history (Visit.answer (Memory.store M)) visits (.empty M)
    (∃ creation life, LastWith (did oid Performed.boundsLife) turns creation life ∧
      creation.given.performed? oid = some .created ∧
      m.tracking.createdAt = some creation.asked.moment.now ∧
      m.tracking.createdBy = creation.asked.caller.user) ∧
    (∃ write later, LastWith (did oid Performed.isWrite) turns write later ∧
      (write.given.performed? oid = some .created ∨ write.given.performed? oid = some .updated) ∧
      m.tracking.updatedAt = some write.asked.moment.now ∧
      m.tracking.updatedBy = write.asked.caller.user) ∧
    (∃ created updated, m.tracking.createdAt = some created ∧
      m.tracking.updatedAt = some updated ∧ created ≤ updated) ∧
    ∀ v : Visit M, ((v.answer (Memory.store M)).run s).value.isWrite = false →
      ((v.answer (Memory.store M)).run s).state = s := by
  intro s turns
  obtain ⟨consistent, traced⟩ := traced_after Memory.consistent_empty visits
  obtain ⟨begun, written⟩ := traced oid (Memory.get?_empty oid) m present
  have coherent := Tracking.validate_eq_ok_iff.mp (consistent.fits_of_get? present).coherent
  refine ⟨?_, written, ?_, fun v idle ↦ (attends_answer v s).same idle⟩
  · obtain ⟨creation, life, last, created, at', by', -⟩ := begun
    exact ⟨creation, life, last, created, at', by'⟩
  · obtain ⟨write, -, -, -, at', -⟩ := written
    obtain ⟨created, made, past⟩ := coherent _ at'
    exact ⟨created, _, made, at', past⟩

/-- Visits of three users to a note: it is created and changed, and then a stale change of it fails
and a change to what it is already is none. -/
def auditedVisits : List (Visit Catalogue.note) :=
  let visit year calendar user task :=
    { noteVisit .standard year calendar (.serve task) with caller := .ofUser user }
  [visit 2010 (by decide) "author" (.create (submitted noteA "first" .unsaved)),
    visit 2011 (by decide) "editor" (.update (submitted noteA "second" .first)),
    visit 2012 (by decide) "reader" (.update (submitted noteA "stale" .first)),
    visit 2013 (by decide) "reader" (.update (submitted noteA "second" Version.first.next))]

/-- The note was created by the author and changed by the editor, and the reader left no trace. -/
theorem audit_trail_notes :
    let tracking : Tracking := ⟨some (.startOfYear 2010 (by decide)), some "author",
      some (.startOfYear 2011 (by decide)), some "editor"⟩
    let turns := history (Visit.answer (Memory.store Catalogue.note)) auditedVisits (.empty _)
    ∃ m, (after (Visit.answer (Memory.store Catalogue.note)) auditedVisits (.empty _)).get? noteA =
        some m ∧ m.tracking = tracking ∧
      ∃ write later, LastWith (did noteA Performed.isWrite) turns write later ∧
        tracking.updatedBy = write.asked.caller.user := by
  intro tracking turns
  have present : (after (Visit.answer (Memory.store Catalogue.note)) auditedVisits
      (.empty _)).get? noteA = some ⟨some noteA, some (Word.zero 64).after, Version.first.next,
        tracking, ("second", ())⟩ := by decide +kernel
  obtain ⟨-, ⟨write, later, last, -, -, by'⟩, -⟩ := audit_trail auditedVisits present
  exact ⟨_, present, rfl, write, later, last, by'⟩

private theorem Touches.of_deleted {found left : Option M.Object}
    (h : Touches v found (some .deleted) left) : left = none := by
  cases h with
  | spared idle => cases idle
  | deleted => rfl

/-- An object that is reported as updated, or as not modified, has met its version in the store. -/
theorem Serves.meets {validate : M.Object → List Violation} {caller : Caller} {moment : Moment}
    {request : Request M} {s t : Memory M} {success : Success M.Object}
    (h : Serves validate caller moment s request t (.ok (.done success)))
    (sent : request.submitted? moment = some m)
    (reported : success.performed = .updated ∨ success.performed = .notModified) :
    ∃ stored, s.get? (request.oid moment) = some stored ∧ stored.version = m.version := by
  cases h with
  | loaded | created | deleted => rcases reported with h | h <;> cases h
  | @notModified n stored sent' _ meets =>
    obtain rfl : n = m := Option.some.inj (sent'.symm.trans sent)
    exact ⟨stored, meets.there, meets.agrees⟩
  | @updated n stored _ sent' _ succeeds =>
    obtain rfl : n = m := Option.some.inj (sent'.symm.trans sent)
    exact ⟨stored, succeeds.there, succeeds.agrees⟩

/-- A visit that submits a change to an object, and is told of it, has met its version in the
store. -/
theorem Attends.meets {s t : Memory M} (h : Attends v s t given) (own : m.oid = some oid)
    (asks : v.task = .serve (.update m) ∨ v.task = .serve (.save m))
    (reported : given.performed? oid = some .updated ∨ given.performed? oid = some .notModified) :
    ∃ stored, s.get? oid = some stored ∧ stored.version = m.version := by
  obtain ⟨success, rfl, told⟩ : ∃ success, given = .reply (.ok (.done success)) ∧
      (success.performed = .updated ∨ success.performed = .notModified) := by
    rcases reported with h | h
    · obtain ⟨success, eq, -, told⟩ := Given.performed?_eq_some_iff.mp h
      exact ⟨success, eq, .inl told⟩
    · obtain ⟨success, eq, -, told⟩ := Given.performed?_eq_some_iff.mp h
      exact ⟨success, eq, .inr told⟩
  cases h with
  | @served request _ _ task serves =>
    have sent : request.submitted? v.moment = some m := by
      rw [← Model.Object.identified_of_oid own v.moment.fresh]
      rw [task] at asks
      rcases asks with h | h
      · cases h
        rfl
      · cases h
        rfl
    have same := Request.oid_of_submitted? sent
    obtain rfl : oid = request.oid v.moment := Option.some.inj (own.symm.trans same)
    exact serves.meets sent told

/-- After an object has been deleted by a visit, an update with its OID is reported as such, or as a
change of nothing, only if it meets a later life: a visit since has created the OID again, and its
version counts the updates that were reported since the last creation. -/
theorem update_after_deletion (calls : List (Store.Call M)) (before since : List (Visit M))
    (deletion update : Visit M) (own : m.oid = some oid)
    (asks : update.task = .serve (.update m) ∨ update.task = .serve (.save m)) :
    let answer := Visit.answer (Memory.store M)
    let gone := (answer deletion).run (after answer before (reached calls))
    let late := (answer update).run (after answer since gone.state)
    gone.value.performed? oid = some .deleted →
    late.value.performed? oid = some .updated ∨ late.value.performed? oid = some .notModified →
    ∃ creation life,
      LastWith (did oid Performed.boundsLife) (history answer since gone.state) creation life ∧
      creation.given.performed? oid = some .created ∧
      m.version.number.val = 1 + life.countP (did oid (· = .updated)) := by
  intro answer gone late deleted reported
  have start := (traced_after (Memory.consistent_reached calls) before).1
  have deletes : Attends deletion _ gone.state gone.value := attends_answer deletion _
  have free : gone.state.get? oid = none := by
    have touches := deletes.touches start oid
    rw [deleted] at touches
    exact touches.of_deleted
  have updates : Attends update _ late.state late.value := attends_answer update _
  obtain ⟨stored, there, agrees⟩ := updates.meets own asks reported
  have traced := (traced_after (deletes.consistent start) since).2 oid free stored there
  obtain ⟨creation, life, last, created, -, -, counted⟩ := traced.begun
  rw [agrees] at counted
  exact ⟨creation, life, last, created, counted⟩

/-- Visits to a note that is deleted and created again, and is then updated by someone who has only
seen the first one. -/
def successorVisits : List (Visit Catalogue.note) :=
  let visit request := noteVisit .standard 2020 (by decide) (.serve request)
  [visit (.create (submitted noteA "first" .unsaved)), visit (.delete noteA),
    visit (.create (submitted noteA "second" .unsaved)),
    visit (.update (submitted noteA "stale" .first))]

/-- The late update meets the second note, which has not been updated since it was created. -/
theorem update_after_deletion_notes :
    let answer := Visit.answer (Memory.store Catalogue.note)
    let visit (i : Fin 4) := successorVisits.get i
    let gone := (answer (visit 1)).run (after answer [visit 0] (reached []))
    let late := (answer (visit 3)).run (after answer [visit 2] gone.state)
    gone.value.performed? noteA = some .deleted ∧ late.value.performed? noteA = some .updated ∧
    ∃ creation life, LastWith (did noteA Performed.boundsLife)
        (history answer [visit 2] gone.state) creation life ∧
      creation.given.performed? noteA = some .created ∧
      1 = 1 + life.countP (did noteA (· = .updated)) := by
  intro answer visit gone late
  have deleted : gone.value.performed? noteA = some .deleted := by decide +kernel
  have updated : late.value.performed? noteA = some .updated := by decide +kernel
  exact ⟨deleted, updated,
    update_after_deletion [] [visit 0] [visit 2] (visit 1) (visit 3) rfl (.inl rfl) deleted
      (.inl updated)⟩

/-- A version does not tell lives apart: with the OID and the version of the note that was returned
first and deleted next, the note that was created after it is updated. -/
theorem stale_update_succeeds :
    let turns := history (Visit.answer (Memory.store Catalogue.note)) successorVisits (.empty _)
    turns.map (fun turn ↦ turn.given.performed? noteA) =
      [some .created, some .deleted, some .created, some .updated] ∧
    ∃ returned stale, turns.head?.map Turn.given = some (.reply (.ok (.created .create returned))) ∧
      turns.getLast?.map (fun turn ↦ turn.asked.task) = some (.serve (.update stale)) ∧
      stale.oid = returned.oid ∧ stale.version = returned.version := by
  intro turns
  exact ⟨by decide +kernel, _, _, rfl, rfl, rfl, rfl⟩

end Service

end VersionedStore
