import VersionedStore.Proofs.Store.Run
import VersionedStore.Store.Memory

/-!
# What the store in memory does

`transition` says once what each call can do: what it gives back, the state that it leaves, and when
that happens. `Fails` lists the causes of failures; a call that fails leaves the store as it was.
Runs and services are reasoned about through these cases, not through the code of the operations.
-/

namespace VersionedStore

open Crud

/-- Tracking that does not fit together is an invalid value. -/
theorem Tracking.validate_eq_error {t : Tracking} {failure : Failure}
    (h : t.validate = .error failure) : ∃ cause, failure = .invalidValue cause := by
  unfold validate at h
  split at h
  · split at h
    · exact ⟨_, (Except.error.inj h).symm⟩
    · cases h
  · exact ⟨_, (Except.error.inj h).symm⟩
  · cases h

namespace Model.Object

variable {M : Model}

/-- The object that is stored for a new one: it gets a numeric id and the first version. -/
def entering (m : M.Object) (numericId : Word 64) : M.Object :=
  { m with numericId := some numericId, version := .first }

end Model.Object

namespace Memory

open Store (Call Result Step)

variable {M : Model}

/-- An object is stored under its OID. -/
def Holds (s : Memory M) (m : M.Object) : Prop := ∃ oid, m.oid = some oid ∧ s.get? oid = some m

/-- A persist finds the OID of its object free, and its tracking is coherent. -/
structure Admits (s : Memory M) (m : M.Object) (oid : M.Oid) : Prop where
  own : m.oid = some oid
  coherent : m.tracking.validate = .ok ()
  free : s.get? oid = none

/-- A merge finds an object that has the version of its own. -/
structure Meets (s : Memory M) (m : M.Object) (oid : M.Oid) (stored : M.Object) : Prop where
  own : m.oid = some oid
  there : s.get? oid = some stored
  agrees : stored.version = m.version

/-- A merge finds an object with other content, and the object to store fits in its place. -/
structure Succeeds (s : Memory M) (m : M.Object) (oid : M.Oid) (stored : M.Object)
    (version : Version) : Prop extends Meets s m oid stored where
  differs : stored.sameContent m = false
  coherent : (m.tracking.carryCreation stored.tracking).validate = .ok ()
  next : stored.version.next? = some version

/-- What is put in the place of the object that a merge finds lies there afterwards. -/
theorem Meets.get?_replace {s : Memory M} {m stored : M.Object} {oid : M.Oid}
    (h : Meets s m oid stored) (n : M.Object) : (s.replace oid n).get? oid = some n := by
  apply get?_replace_self
  rw [h.there]
  rfl

/-- Why a call fails. -/
inductive Fails (s : Memory M) : Call M → Failure → Prop where
  | persistWithoutOid {m : M.Object} (none : m.oid = none) :
      Fails s (.persist m) (.invalidState (.withoutOid M.tag))
  | persistIncoherent {m : M.Object} {oid : M.Oid} {failure : Failure} (own : m.oid = some oid)
      (incoherent : m.tracking.validate = .error failure) : Fails s (.persist m) failure
  | occupied {m stored : M.Object} {oid : M.Oid} (own : m.oid = some oid)
      (coherent : m.tracking.validate = .ok ()) (there : s.get? oid = some stored) :
      Fails s (.persist m) (.alreadyExists M.tag (M.oidKind.textOf oid))
  | mergeWithoutOid {m : M.Object} (none : m.oid = none) :
      Fails s (.merge m) (.invalidState (.withoutOid M.tag))
  | missing {m : M.Object} {oid : M.Oid} (own : m.oid = some oid) (free : s.get? oid = none) :
      Fails s (.merge m) (.notFound M.tag (M.oidKind.textOf oid))
  | conflict {m stored : M.Object} {oid : M.Oid} (own : m.oid = some oid)
      (there : s.get? oid = some stored) (other : stored.version ≠ m.version) :
      Fails s (.merge m) (.versionConflict m.version stored.version)
  | mergeIncoherent {m stored : M.Object} {oid : M.Oid} {failure : Failure}
      (meets : Meets s m oid stored) (differs : stored.sameContent m = false)
      (incoherent : (m.tracking.carryCreation stored.tracking).validate = .error failure) :
      Fails s (.merge m) failure
  | lastVersion {m stored : M.Object} {oid : M.Oid}
      (meets : Meets s m oid stored) (differs : stored.sameContent m = false)
      (coherent : (m.tracking.carryCreation stored.tracking).validate = .ok ())
      (last : stored.version.next? = none) :
      Fails s (.merge m) (.invalidState (.lastVersion stored.version))

/-- What a call does from a state: its result and the state that it leaves. -/
inductive Transition (s : Memory M) : Call M → Result M → Memory M → Prop where
  | found (oid : M.Oid) : Transition s (.find oid) (.found (s.get? oid)) s
  | contained (oid : M.Oid) : Transition s (.contains oid) (.contained (s.get? oid).isSome) s
  | listed : Transition s .findAll (.listed s.all) s
  | persisted {m : M.Object} {oid : M.Oid} (admits : Admits s m oid) :
      Transition s (.persist m) (.persisted (m.entering s.sequence.after))
        (s.insert oid (m.entering s.sequence.after))
  | notModified {m stored : M.Object} {oid : M.Oid} (meets : Meets s m oid stored)
      (same : stored.sameContent m = true) :
      Transition s (.merge m) (.merged (.notModified stored)) s
  | updated {m stored : M.Object} {oid : M.Oid} {version : Version}
      (succeeds : Succeeds s m oid stored version) :
      Transition s (.merge m) (.merged (.updated (m.succeeding stored version)))
        (s.replace oid (m.succeeding stored version))
  | removed (oid : M.Oid) : Transition s (.remove oid) (.removed (s.get? oid)) (s.erase oid)
  | failed {c : Call M} {failure : Failure} (cause : Fails s c failure) :
      Transition s c (.failed failure) s

/-- A find gives what lies under an OID, and leaves the store alone. -/
theorem run_find (oid : M.Oid) (s : Memory M) :
    ((store M).find oid).run.run s = ⟨.ok (s.get? oid), s, []⟩ := rfl

/-- Asking for an OID tells whether something lies there, and leaves the store alone. -/
theorem run_contains (oid : M.Oid) (s : Memory M) :
    ((store M).contains oid).run.run s = ⟨.ok (s.get? oid).isSome, s, []⟩ := rfl

/-- A removal gives what lay under an OID, and takes it out. -/
theorem run_remove (oid : M.Oid) (s : Memory M) :
    ((store M).remove oid).run.run s = ⟨.ok (s.get? oid), s.erase oid, []⟩ := rfl

/-- A persist with a cause to fail does so, and leaves the store as it was. -/
theorem persist_of_fails {s : Memory M} {m : M.Object} {failure : Failure}
    (cause : Fails s (.persist m) failure) :
    (persist m).run.run s = ⟨.error failure, s, []⟩ := by
  cases cause with
  | persistWithoutOid none =>
    simp only [persist, Model.Object.requireOid, none]
    exact Attempt.run_bind_of_error (Attempt.run_lift _ s) _
  | persistIncoherent own incoherent =>
    simp only [persist, Model.Object.requireOid_eq_ok_iff.mpr own, incoherent]
    rw [Attempt.run_bind_of_ok (Attempt.run_lift _ s),
      Attempt.run_bind_of_error (Attempt.run_lift _ s)]
    rfl
  | occupied own coherent there =>
    simp only [persist, Model.Object.requireOid_eq_ok_iff.mpr own, coherent]
    rw [Attempt.run_bind_of_ok (Attempt.run_lift _ s),
      Attempt.run_bind_of_ok (Attempt.run_lift _ s),
      Attempt.run_bind_of_ok (Attempt.run_get s), there]
    rfl

/-- A persist that is admitted takes in its object under the next numeric id. -/
theorem persist_of_admits {s : Memory M} {m : M.Object} {oid : M.Oid} (h : Admits s m oid) :
    (persist m).run.run s = ⟨.ok (m.entering s.sequence.after),
      s.insert oid (m.entering s.sequence.after),
      [.inserted M.tag (M.oidKind.textOf oid) s.sequence.after]⟩ := by
  simp only [persist, Model.Object.requireOid_eq_ok_iff.mpr h.own, h.coherent]
  rw [Attempt.run_bind_of_ok (Attempt.run_lift _ s),
    Attempt.run_bind_of_ok (Attempt.run_lift _ s),
    Attempt.run_bind_of_ok (Attempt.run_get s), h.free]
  rfl

/-- A persist fails and leaves the store as it was, or takes in its object. -/
theorem persist_cases (m : M.Object) (s : Memory M) :
    (∃ failure, Fails s (.persist m) failure ∧
      (persist m).run.run s = ⟨.error failure, s, []⟩) ∨
    (∃ oid, Admits s m oid ∧
      (persist m).run.run s = ⟨.ok (m.entering s.sequence.after),
        s.insert oid (m.entering s.sequence.after),
        [.inserted M.tag (M.oidKind.textOf oid) s.sequence.after]⟩) := by
  have failed {failure : Failure} (cause : Fails s (.persist m) failure) :
      ∃ failure, Fails s (.persist m) failure ∧
        (persist m).run.run s = ⟨.error failure, s, []⟩ :=
    ⟨failure, cause, persist_of_fails cause⟩
  cases own : m.oid with
  | none => exact .inl (failed (.persistWithoutOid own))
  | some oid =>
    cases coherent : m.tracking.validate with
    | error failure => exact .inl (failed (.persistIncoherent own coherent))
    | ok =>
      cases there : s.get? oid with
      | some stored => exact .inl (failed (.occupied own coherent there))
      | none =>
        have admits : Admits s m oid := ⟨own, coherent, there⟩
        exact .inr ⟨oid, admits, persist_of_admits admits⟩

/-- What a merge does once it has found the version of its object. -/
theorem run_merge_of_meets {s : Memory M} {m stored : M.Object} {oid : M.Oid}
    (h : Meets s m oid stored) :
    (merge m).run.run s = ExceptT.run (if stored.sameContent m then do
        Attempt.report (.kept M.tag (M.oidKind.textOf oid) stored.version)
        return .notModified stored
      else do
        (m.tracking.carryCreation stored.tracking).validate
        let version ← stored.version.tryNext
        set (s.replace oid (m.succeeding stored version))
        Attempt.report (.replaced M.tag (M.oidKind.textOf oid) version)
        return .updated (m.succeeding stored version) : Attempt (Memory M) _) s := by
  have required : m.requireOid = .ok oid := Model.Object.requireOid_eq_ok_iff.mpr h.own
  simp only [merge, required]
  rw [Attempt.run_bind_of_ok (Attempt.run_lift _ s),
    Attempt.run_bind_of_ok (Attempt.run_get s), h.there]
  simp only [ne_eq, h.agrees, not_true_eq_false, if_false]
  rfl

/-- A merge of the content that is stored gives the stored object and leaves the store as it was. -/
theorem merge_of_same {s : Memory M} {m stored : M.Object} {oid : M.Oid}
    (meets : Meets s m oid stored) (same : stored.sameContent m = true) :
    (merge m).run.run s = ⟨.ok (.notModified stored), s,
      [.kept M.tag (M.oidKind.textOf oid) stored.version]⟩ := by
  rw [run_merge_of_meets meets, same]
  rfl

/-- A merge that succeeds puts the next version in the place of the stored object. -/
theorem merge_of_succeeds {s : Memory M} {m stored : M.Object} {oid : M.Oid} {version : Version}
    (h : Succeeds s m oid stored version) :
    (merge m).run.run s = ⟨.ok (.updated (m.succeeding stored version)),
      s.replace oid (m.succeeding stored version),
      [.replaced M.tag (M.oidKind.textOf oid) version]⟩ := by
  rw [run_merge_of_meets h.toMeets, h.differs, h.coherent]
  simp only [Version.tryNext, h.next]
  rfl

/-- A merge whose tracking does not fit to the stored creation fails and leaves the store as it was.
-/
theorem merge_of_incoherent {s : Memory M} {m stored : M.Object} {oid : M.Oid} {failure : Failure}
    (meets : Meets s m oid stored) (differs : stored.sameContent m = false)
    (incoherent : (m.tracking.carryCreation stored.tracking).validate = .error failure) :
    (merge m).run.run s = ⟨.error failure, s, []⟩ := by
  rw [run_merge_of_meets meets, differs, incoherent]
  rfl

/-- A merge of another version than the stored one conflicts and leaves the store as it was. -/
theorem merge_of_conflict {s : Memory M} {m stored : M.Object} {oid : M.Oid}
    (own : m.oid = some oid) (there : s.get? oid = some stored)
    (other : stored.version ≠ m.version) :
    (merge m).run.run s = ⟨.error (.versionConflict m.version stored.version), s, []⟩ := by
  have required : m.requireOid = .ok oid := Model.Object.requireOid_eq_ok_iff.mpr own
  simp only [merge, required]
  rw [Attempt.run_bind_of_ok (Attempt.run_lift _ s),
    Attempt.run_bind_of_ok (Attempt.run_get s), there]
  simp only [ne_eq, other, not_false_eq_true, if_true]
  rfl

/-- A merge with a cause to fail does so, and leaves the store as it was. -/
theorem merge_of_fails {s : Memory M} {m : M.Object} {failure : Failure}
    (cause : Fails s (.merge m) failure) : (merge m).run.run s = ⟨.error failure, s, []⟩ := by
  cases cause with
  | mergeWithoutOid none =>
    simp only [merge, Model.Object.requireOid, none]
    exact Attempt.run_bind_of_error (Attempt.run_lift _ s) _
  | missing own free =>
    simp only [merge, Model.Object.requireOid_eq_ok_iff.mpr own]
    rw [Attempt.run_bind_of_ok (Attempt.run_lift _ s),
      Attempt.run_bind_of_ok (Attempt.run_get s), free]
    rfl
  | conflict own there other => exact merge_of_conflict own there other
  | mergeIncoherent meets differs incoherent => exact merge_of_incoherent meets differs incoherent
  | lastVersion meets differs coherent last =>
    rw [run_merge_of_meets meets, differs, coherent]
    simp only [Version.tryNext, last]
    rfl

/-- A version conflict is the failure of a merge of another version than the stored one. -/
theorem Fails.of_conflict {s : Memory M} {m : M.Object} {expected actual : Version}
    (h : Fails s (.merge m) (.versionConflict expected actual)) :
    ∃ oid stored, m.oid = some oid ∧ s.get? oid = some stored ∧ stored.version ≠ m.version := by
  cases h with
  | conflict own there other => exact ⟨_, _, own, there, other⟩
  | mergeIncoherent meets differs incoherent =>
    obtain ⟨cause, h⟩ := Tracking.validate_eq_error incoherent
    cases h

/-- A merge fails and leaves the store as it was, or finds its content stored, or replaces the
stored object. -/
theorem merge_cases (m : M.Object) (s : Memory M) :
    (∃ failure, Fails s (.merge m) failure ∧
      (merge m).run.run s = ⟨.error failure, s, []⟩) ∨
    (∃ oid stored, Meets s m oid stored ∧ stored.sameContent m = true ∧
      (merge m).run.run s = ⟨.ok (.notModified stored), s,
        [.kept M.tag (M.oidKind.textOf oid) stored.version]⟩) ∨
    (∃ oid stored version, Succeeds s m oid stored version ∧
      (merge m).run.run s = ⟨.ok (.updated (m.succeeding stored version)),
        s.replace oid (m.succeeding stored version),
        [.replaced M.tag (M.oidKind.textOf oid) version]⟩) := by
  have failed {failure : Failure} (cause : Fails s (.merge m) failure) :
      ∃ failure, Fails s (.merge m) failure ∧
        (merge m).run.run s = ⟨.error failure, s, []⟩ :=
    ⟨failure, cause, merge_of_fails cause⟩
  cases own : m.oid with
  | none => exact .inl (failed (.mergeWithoutOid own))
  | some oid =>
    cases there : s.get? oid with
    | none => exact .inl (failed (.missing own there))
    | some stored =>
      by_cases agrees : stored.version = m.version
      · have meets : Meets s m oid stored := ⟨own, there, agrees⟩
        cases content : stored.sameContent m with
        | true => exact .inr (.inl ⟨oid, stored, meets, content, merge_of_same meets content⟩)
        | false =>
          cases coherent : (m.tracking.carryCreation stored.tracking).validate with
          | error failure => exact .inl (failed (.mergeIncoherent meets content coherent))
          | ok =>
            cases next : stored.version.next? with
            | none => exact .inl (failed (.lastVersion meets content coherent next))
            | some version =>
              have succeeds : Succeeds s m oid stored version := ⟨meets, content, coherent, next⟩
              exact .inr (.inr ⟨oid, stored, version, succeeds, merge_of_succeeds succeeds⟩)
      · exact .inl (failed (.conflict own there agrees))

/-- Every call does what `Transition` says. -/
theorem transition (s : Memory M) (c : Call M) :
    Transition s c (((store M).perform c).run s).value (((store M).perform c).run s).state := by
  cases c with
  | find oid => exact .found oid
  | contains oid => exact .contained oid
  | findAll => exact .listed
  | remove oid => exact .removed oid
  | persist m =>
    change Transition s (.persist m) (Result.of .persisted ((persist m).run.run s).value)
      ((persist m).run.run s).state
    obtain ⟨failure, cause, h⟩ | ⟨oid, admits, h⟩ := persist_cases m s
    · rw [h]
      exact .failed cause
    · rw [h]
      exact .persisted admits
  | merge m =>
    change Transition s (.merge m) (Result.of .merged ((merge m).run.run s).value)
      ((merge m).run.run s).state
    obtain ⟨failure, cause, h⟩ | ⟨oid, stored, meets, same, h⟩ |
      ⟨oid, stored, version, succeeds, h⟩ := merge_cases m s
    · rw [h]
      exact .failed cause
    · rw [h]
      exact .notModified meets same
    · rw [h]
      exact .updated succeeds

private theorem perform_persist {s t : Memory M} {m : M.Object} {value : Except Failure M.Object}
    {events : List Event} (run : (persist m).run.run s = ⟨value, t, events⟩) :
    (((store M).perform (.persist m)).run s).value = .of .persisted value ∧
      (((store M).perform (.persist m)).run s).state = t := by
  change Result.of .persisted ((persist m).run.run s).value = _ ∧ ((persist m).run.run s).state = _
  rw [run]
  exact ⟨rfl, rfl⟩

private theorem perform_merge {s t : Memory M} {m : M.Object}
    {value : Except Failure (Merged M.Object)} {events : List Event}
    (run : (merge m).run.run s = ⟨value, t, events⟩) :
    (((store M).perform (.merge m)).run s).value = .of .merged value ∧
      (((store M).perform (.merge m)).run s).state = t := by
  change Result.of .merged ((merge m).run.run s).value = _ ∧ ((merge m).run.run s).state = _
  rw [run]
  exact ⟨rfl, rfl⟩

/-- A call does nothing else than `Transition` says. -/
theorem Transition.ends {s t : Memory M} {c : Call M} {r : Result M} (h : Transition s c r t) :
    (((store M).perform c).run s).value = r ∧ (((store M).perform c).run s).state = t := by
  cases h with
  | found | contained | listed | removed => exact ⟨rfl, rfl⟩
  | persisted admits => exact perform_persist (persist_of_admits admits)
  | notModified meets same => exact perform_merge (merge_of_same meets same)
  | updated succeeds => exact perform_merge (merge_of_succeeds succeeds)
  | failed cause =>
    cases c with
    | find | contains | findAll | remove => cases cause
    | persist => exact perform_persist (persist_of_fails cause)
    | merge => exact perform_merge (merge_of_fails cause)

/-- The state that calls on the empty store leave. -/
def reached (calls : List (Call M)) : Memory M := (store M).after calls (empty M)

/-- The steps of calls on the empty store. -/
def recorded (calls : List (Call M)) : List (Step M) := (store M).history calls (empty M)

/-- What holds of the empty store and is kept by every transition holds after every run. -/
theorem reached_induction {P : List (Step M) → Memory M → Prop} (start : P [] (empty M))
    (keep : ∀ steps s c r t, Transition s c r t → P steps s → P (steps ++ [⟨c, r⟩]) t)
    (calls : List (Call M)) : P (recorded calls) (reached calls) :=
  (store M).run_induction (fun steps s c h ↦ keep steps s c _ _ (transition s c) h) calls start

end Memory

end VersionedStore
