import VersionedStore.Proofs.Service.Verdict

/-!
# Which stored objects can be updated

A store in memory is used by direct calls and by visits to services that share it. An update through
a service stamps the object, and the stored creation is carried over: so an object can be updated
exactly when its creation is recorded. Services always record it; only a direct persist can take in
an object without one.
-/

namespace VersionedStore

open Crud

namespace Service

open Memory (AllObjects Consistent Fits Meets Transition noteA submitted)
open Store (Call Result)

variable {M : Model}

/-- A use of a store: a direct call, or a visit to a service over the store. -/
inductive Use (M : Model) where
  | call (c : Call M)
  | visit (v : Visit M)

/-- The store that a use leaves. -/
def Use.left : Use M → Memory M → Memory M
  | .call c, s => (((Memory.store M).perform c).run s).state
  | .visit v, s => ((v.answer (Memory.store M)).run s).state

/-- The store that is reached from the empty one by uses, one after the other. -/
def used (uses : List (Use M)) : Memory M := uses.foldl (fun s u ↦ u.left s) (.empty M)

/-- Every store that is reached is consistent. -/
theorem consistent_used (uses : List (Use M)) : Consistent (used uses) := by
  refine List.foldlRecOn uses _ Memory.consistent_empty fun s consistent u _ ↦ ?_
  cases u with
  | call c => exact Memory.consistent_transition (Memory.transition s c) consistent
  | visit v => exact (attends_answer v s).consistent consistent

/-- The creation of an object is recorded. -/
def Created (m : M.Object) : Prop := m.tracking.createdAt ≠ none

/-- The object that replaces one whose creation is recorded has it recorded as well. -/
theorem created_succeeding {s : Memory M} (all : AllObjects Created s) {oid : M.Oid}
    {stored : M.Object} (there : s.get? oid = some stored) (m : M.Object) (version : Version) :
    Created (m.succeeding stored version) :=
  all _ (Memory.mem_of_get? there)

private theorem created_transition {s t : Memory M} {c : Call M} {r : Result M}
    (h : Transition s c r t)
    (brought : ∀ m, c = .persist m → Created m) (all : AllObjects Created s) :
    AllObjects Created t := by
  cases h with
  | found | contained | listed | notModified | failed => exact all
  | @persisted m oid admits =>
    have created : Created m := brought m rfl
    exact all.insert oid created
  | updated succeeds => exact all.replace _ (created_succeeding all succeeds.there _ _)
  | removed oid => exact all.erase oid

private theorem created_attends {s t : Memory M} {v : Visit M} {given : Given M}
    (h : Attends v s t given)
    (all : AllObjects Created s) : AllObjects Created t := by
  cases h with
  | listed => exact all
  | served _ serves =>
    cases serves with
    | refused | rejected | invalid | loaded | notModified => exact all
    | created => exact all.insert _ (Option.some_ne_none _)
    | updated _ _ succeeds => exact all.replace _ (created_succeeding all succeeds.there _ _)
    | deleted => exact all.erase _

/-- If every object of a direct persist brings its creation, all creations are recorded. -/
theorem created_used {uses : List (Use M)}
    (brought : ∀ m, .call (.persist m) ∈ uses → Created m) : AllObjects Created (used uses) := by
  refine List.foldlRecOn uses _ (Memory.allObjects_empty Created) fun s all u hu ↦ ?_
  cases u with
  | visit v => exact created_attends (attends_answer v s) all
  | call c =>
    refine created_transition (Memory.transition s c) ?_ all
    rintro m rfl
    exact brought m hu

section

variable {settings : Settings} {caller : Caller} {now : Instant} {s : Memory M}
  {m stored : M.Object} {oid : M.Oid}

/-- An update with changed own fields puts the next version in the place of an object whose creation
is recorded. -/
theorem update_of_created (writable : settings.readOnly = false) (fits : Fits oid stored)
    (meets : Meets s m oid stored) (differs : stored.sameContent (m.stampedChanged caller now) = false)
    (changeable : Changeable now stored) :
    ((inMemory M settings fun _ ↦ []).update caller now m).Ends s fun t reply ↦
      ∃ next, stored.version.next? = some next ∧
        t = s.replace oid ((m.stampedChanged caller now).succeeding stored next) ∧
        reply = .ok (.updated .update ((m.stampedChanged caller now).succeeding stored next)) := by
  have met : Meets s (m.stampedChanged caller now) oid stored := ⟨meets.own, meets.there, meets.agrees⟩
  obtain ⟨next, succeeds⟩ := changeable.succeeds met differs
  refine ends_update_of_stored writable meets.own ?_ rfl meets.there ?_
  · rw [← meets.agrees]
    exact fits.ne_unsaved
  · exact .bind (Memory.merge_of_succeeds succeeds) ⟨next, succeeds.next, rfl, rfl⟩

/-- An update with changed own fields of an object whose creation is not recorded is answered by a
server error: the stamp of the update has no creation to go with. -/
theorem update_of_uncreated (writable : settings.readOnly = false) (fits : Fits oid stored)
    (meets : Meets s m oid stored) (differs : stored.sameContent (m.stampedChanged caller now) = false)
    (never : stored.tracking.createdAt = none) :
    ((inMemory M settings fun _ ↦ []).update caller now m).Ends s fun t reply ↦
      t = s ∧ reply = .ok (.rejected (.make .update M.tag (M.oidKind.textOf oid)
        (.serverError "invalid value: updated but never created"))) := by
  have met : Meets s (m.stampedChanged caller now) oid stored := ⟨meets.own, meets.there, meets.agrees⟩
  have incoherent : ((m.stampedChanged caller now).tracking.carryCreation
      stored.tracking).validate = .error (.invalidValue .neverCreated) := by
    simp only [Tracking.carryCreation, never]
    rfl
  refine ends_update_of_stored writable meets.own ?_ rfl meets.there ?_
  · rw [← meets.agrees]
    exact fits.ne_unsaved
  · exact .bind (Memory.merge_of_incoherent met differs incoherent) ⟨rfl, rfl⟩

end

/-- A stored object can be updated exactly when its creation is recorded. Whatever direct calls and
visits have led to a store, let an object lie there that was not created after now and whose version
is not the last one. Then a service that may write and has no rules answers an update with its OID,
its version and other own fields by the next version, which it stores, if the creation of the object
is recorded, and by a server error, storing nothing, if it is not. It is recorded unless a direct
persist took in an object without it. Contents must show all own fields, or else a change of one
that they leave out modifies nothing. -/
theorem update_stored (uses : List (Use M)) (shows : M.ShowsOwn) {settings : Settings}
    (writable : settings.readOnly = false) {stored m : M.Object} {oid : M.Oid}
    (there : (used uses).get? oid = some stored) (more : stored.version ≠ .last) {now : Instant}
    (past : ∀ created ∈ stored.tracking.createdAt, created ≤ now) (own : m.oid = some oid)
    (agrees : m.version = stored.version)
    (changed : M.ownFields.unsign m.own ≠ M.ownFields.unsign stored.own) (caller : Caller) :
    let outcome := ((inMemory M settings fun _ ↦ []).update caller now m).run (used uses)
    (Created stored → ∃ next, stored.version.next? = some next ∧
      outcome.value = .ok (.updated .update ((m.stampedChanged caller now).succeeding stored next)) ∧
      outcome.state =
        (used uses).replace oid ((m.stampedChanged caller now).succeeding stored next)) ∧
    (¬Created stored →
      outcome.value = .ok (.rejected (.make .update M.tag (M.oidKind.textOf oid)
        (.serverError "invalid value: updated but never created"))) ∧
      outcome.state = used uses) ∧
    ((∀ n, .call (.persist n) ∈ uses → Created n) → Created stored) := by
  have fits := (consistent_used uses).fits_of_get? there
  have meets : Meets (used uses) m oid stored := ⟨own, there, agrees.symm⟩
  have differs : stored.sameContent (m.stampedChanged caller now) = false := by
    apply Bool.eq_false_iff.mpr
    intro same
    exact changed (Model.Object.own_of_sameContent shows same).symm
  refine ⟨fun created ↦ ?_, fun never ↦ ?_, fun brought ↦ ?_⟩
  · obtain ⟨created, made⟩ := Option.ne_none_iff_exists'.mp created
    have changeable : Changeable now stored := ⟨⟨created, made, past created made⟩, more⟩
    obtain ⟨next, counted, kept, reply⟩ :=
      update_of_created writable fits meets differs changeable
    exact ⟨next, counted, reply, kept⟩
  · obtain ⟨kept, reply⟩ :=
      update_of_uncreated writable fits meets differs (Classical.not_not.mp never)
    exact ⟨reply, kept⟩
  · exact created_used brought _ (Memory.mem_of_get? there)

/-- A note that a service has created is updated a year later. -/
theorem update_stored_note :
    let visit := noteVisit .standard 2000 (by decide)
      (.serve (.create (submitted noteA "first" .unsaved)))
    let uses : List (Use Catalogue.note) := [.visit visit]
    let now := Instant.startOfYear 2001 (by decide)
    let stored := ((submitted noteA "first" .unsaved).stampedNew .anonymous
      visit.moment.now).entering Version.first.number
    let m := submitted noteA "second" .first
    let outcome := ((inMemory Catalogue.note .standard fun _ ↦ []).update .anonymous now m).run
      (used uses)
    Catalogue.note.ShowsOwn ∧ Settings.standard.readOnly = false ∧
    (used uses).get? noteA = some stored ∧ stored.version ≠ .last ∧
    (∀ created ∈ stored.tracking.createdAt, created ≤ now) ∧ m.oid = some noteA ∧
    m.version = stored.version ∧
    Catalogue.note.ownFields.unsign m.own ≠ Catalogue.note.ownFields.unsign stored.own ∧
    ∃ next, stored.version.next? = some next ∧
      outcome.value =
        .ok (.updated .update ((m.stampedChanged .anonymous now).succeeding stored next)) := by
  intro visit uses now stored m outcome
  have shows : Catalogue.note.ShowsOwn := by decide
  have there : (used uses).get? noteA = some stored := by decide +kernel
  have more : stored.version ≠ .last := by decide
  have past : ∀ created ∈ stored.tracking.createdAt, created ≤ now := by decide +kernel
  have changed : Catalogue.note.ownFields.unsign m.own ≠
      Catalogue.note.ownFields.unsign stored.own := by decide
  have writable : Settings.standard.readOnly = false := rfl
  have own : m.oid = some noteA := rfl
  have agrees : m.version = stored.version := rfl
  obtain ⟨updated, -, -⟩ :=
    update_stored uses shows writable there more past own agrees changed .anonymous
  obtain ⟨next, counted, reply, -⟩ := updated (Option.some_ne_none _)
  exact ⟨shows, writable, there, more, past, own, agrees, changed, next, counted, reply⟩

/-- A note that was taken in by a direct persist without a creation cannot be updated through a
service, though there is no time in the store that the clock could be behind. -/
theorem update_uncreated_note :
    let uses : List (Use Catalogue.note) := [.call (.persist (submitted noteA "first" .unsaved))]
    let m := submitted noteA "second" .first
    let outcome := ((inMemory Catalogue.note .standard fun _ ↦ []).update .anonymous .epoch m).run
      (used uses)
    (used uses).objects = [(noteA,
      ⟨some noteA, some Version.first.number, .first, .empty, ("first", ())⟩)] ∧
    outcome.value = .ok (.rejected (.make .update "note" "a"
      (.serverError "invalid value: updated but never created"))) := by
  decide +kernel

end Service

end VersionedStore
