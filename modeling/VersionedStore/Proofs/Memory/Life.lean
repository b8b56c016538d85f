import VersionedStore.Proofs.Memory.Invariant

/-!
# The life of a stored object

A life begins with the persist that takes an object in and goes on until its OID is taken out. It is
told by the history: `LastPersist` finds where it begins, and `updates` lists what was submitted to
the merges that replaced the object since. Numeric id and creation stay those of the beginning, the
version counts the updates, and the own fields are those of the last one.
-/

namespace VersionedStore

open Crud

namespace Store

variable {M : Model}

/-- What was submitted to a merge of an OID that replaced the stored object. -/
def Step.updated? (oid : M.Oid) : Step M → Option M.Object
  | ⟨.merge m, .merged (.updated _)⟩ => if m.oid = some oid then some m else none
  | _ => none

/-- What was submitted to the merges of an OID that replaced the stored object, in their order. -/
def updates (oid : M.Oid) (steps : List (Step M)) : List M.Object :=
  steps.filterMap (Step.updated? oid)

/-- The last successful persist of an OID, what it was given and gave back, and what came since. -/
structure LastPersist (steps : List (Step M)) (oid : M.Oid) (given taken : M.Object)
    (since : List (Step M)) : Prop where
  split : ∃ before, steps = before ++ ⟨.persist given, .persisted taken⟩ :: since
  own : given.oid = some oid
  last : ∀ m n, m.oid = some oid → ⟨.persist m, .persisted n⟩ ∉ since

/-- A further step may add an update. -/
theorem updates_append (oid : M.Oid) (steps : List (Step M)) (step : Step M) :
    updates oid (steps ++ [step]) = updates oid steps ++ (step.updated? oid).toList := by
  cases h : step.updated? oid <;> simp [updates, List.filterMap_append, h]

/-- A successful persist is the last one when it has just been made. -/
theorem LastPersist.intro (steps : List (Step M)) {oid : M.Oid} {m : M.Object}
    (own : m.oid = some oid) (n : M.Object) :
    LastPersist (steps ++ [⟨.persist m, .persisted n⟩]) oid m n [] :=
  ⟨⟨steps, rfl⟩, own, fun _ _ _ ↦ List.not_mem_nil⟩

/-- The last successful persist stays the last one after any other step. -/
theorem LastPersist.append {steps since : List (Step M)} {oid : M.Oid} {given taken : M.Object}
    (h : LastPersist steps oid given taken since) {step : Step M}
    (other : ∀ m n, m.oid = some oid → ⟨.persist m, .persisted n⟩ ≠ step) :
    LastPersist (steps ++ [step]) oid given taken (since ++ [step]) where
  split := by
    obtain ⟨before, split⟩ := h.split
    exact ⟨before, by rw [split, List.append_assoc, List.cons_append]⟩
  own := h.own
  last := by
    intro m n own
    rw [List.mem_append, List.mem_singleton, not_or]
    exact ⟨h.last m n own, other m n own⟩

private theorem LastPersist.not_before {steps since later between : List (Step M)} {oid : M.Oid}
    {given taken m n : M.Object} (h : LastPersist steps oid given taken since)
    (own : m.oid = some oid) (split : since = between ++ ⟨.persist m, .persisted n⟩ :: later) :
    False := by
  apply h.last m n own
  rw [split]
  exact List.mem_append_right between List.mem_cons_self

/-- There is only one last successful persist. -/
theorem LastPersist.unique {steps since later : List (Step M)} {oid : M.Oid}
    {given taken m n : M.Object} (h : LastPersist steps oid given taken since)
    (h' : LastPersist steps oid m n later) : m = given ∧ n = taken ∧ later = since := by
  obtain ⟨before, split⟩ := h.split
  obtain ⟨before', split'⟩ := h'.split
  rw [split, List.append_eq_append_iff] at split'
  obtain ⟨between, -, rest⟩ | ⟨between, -, rest⟩ := split'
  · cases between with
    | nil =>
      cases rest
      exact ⟨rfl, rfl, rfl⟩
    | cons step between => exact (h.not_before h'.own (List.cons.inj rest).2).elim
  · cases between with
    | nil =>
      cases rest
      exact ⟨rfl, rfl, rfl⟩
    | cons step between => exact (h'.not_before h.own (List.cons.inj rest).2).elim

end Store

namespace Memory

open Store (Call Result Step LastPersist updates)

variable {M : Model}

/-- An object comes from the one that a persist took in by updates. -/
structure ComesFrom (stored given taken : M.Object) (since : List M.Object) : Prop where
  numericId : stored.numericId = taken.numericId
  createdAt : stored.tracking.createdAt = taken.tracking.createdAt
  createdBy : stored.tracking.createdBy = taken.tracking.createdBy
  version : stored.version.number.val = 1 + since.length
  own : stored.own = (since.getLast?.getD given).own

/-- The object under an OID, if any, comes from its last persist by the updates since. -/
def Told (steps : List (Step M)) (s : Memory M) (oid : M.Oid) : Prop :=
  ∀ stored, s.get? oid = some stored → ∃ given taken since,
    LastPersist steps oid given taken since ∧
    ComesFrom stored given taken (updates oid since)

private theorem comesFrom_entering (m : M.Object) (n : Word 64) :
    ComesFrom (m.entering n) m (m.entering n) [] :=
  ⟨rfl, rfl, rfl, rfl, rfl⟩

/-- The object that replaces one comes from the same persist by one more update. -/
theorem ComesFrom.succeeding {stored given taken m : M.Object} {since : List M.Object}
    (h : ComesFrom stored given taken since) (numbered : stored.numericId.isSome)
    {version : Version} (next : stored.version.next? = some version) :
    ComesFrom (m.succeeding stored version) given taken (since ++ [m]) where
  numericId := by
    obtain ⟨n, hn⟩ := Option.isSome_iff_exists.mp numbered
    rw [← h.numericId, Model.Object.succeeding, hn]
    rfl
  createdAt := h.createdAt
  createdBy := h.createdBy
  version := by
    have counted := Version.number_of_next? next
    rw [h.version] at counted
    rw [List.length_append, List.length_singleton]
    exact counted
  own := by
    rw [List.getLast?_concat]
    rfl

private theorem Told.append {steps : List (Step M)} {s t : Memory M} {oid : M.Oid} {step : Step M}
    (told : Told steps s oid) (same : t.get? oid = s.get? oid)
    (other : ∀ m n, m.oid = some oid → ⟨.persist m, .persisted n⟩ ≠ step)
    (none : step.updated? oid = none) : Told (steps ++ [step]) t oid := by
  intro stored there
  rw [same] at there
  obtain ⟨given, taken, since, last, comes⟩ := told stored there
  refine ⟨given, taken, since ++ [step], last.append other, ?_⟩
  rw [Store.updates_append, none, Option.toList_none, List.append_nil]
  exact comes

private theorem told_transition {steps : List (Step M)} {s t : Memory M} {c : Call M}
    {r : Result M} (h : Transition s c r t) (consistent : Consistent s) {oid : M.Oid}
    (told : Told steps s oid) : Told (steps ++ [⟨c, r⟩]) t oid := by
  cases h with
  | found | contained | listed | notModified =>
    exact told.append rfl (fun _ _ _ ↦ by simp) rfl
  | failed cause =>
    cases cause <;> exact told.append rfl (fun _ _ _ ↦ by simp) rfl
  | @persisted m other admits =>
    by_cases same : oid = other
    · subst same
      -- The persist begins a life: nothing has come since.
      intro stored there
      rw [get?_insert_self _ admits.free] at there
      cases there
      exact ⟨m, _, [], .intro steps admits.own _, comesFrom_entering m _⟩
    · apply told.append (get?_insert_ne _ same) _ rfl
      intro m' n' own eq
      cases eq
      rw [admits.own] at own
      exact same (Option.some.inj own).symm
  | @updated m stored other version succeeds =>
    by_cases same : oid = other
    · subst same
      intro next there
      rw [succeeds.get?_replace] at there
      cases there
      obtain ⟨given, taken, since, last, comes⟩ := told stored succeeds.there
      refine ⟨given, taken, _, last.append (fun _ _ _ ↦ by simp), ?_⟩
      have update : Step.updated? oid ⟨.merge m, .merged (.updated (m.succeeding stored version))⟩ =
          some m := if_pos succeeds.own
      rw [Store.updates_append, update]
      exact comes.succeeding (consistent.fits_of_get? succeeds.there).numbered succeeds.next
    · apply told.append (get?_replace_ne same) (fun _ _ _ ↦ by simp)
      apply if_neg
      rw [succeeds.own]
      exact fun eq ↦ same (Option.some.inj eq).symm
  | removed other =>
    by_cases same : oid = other
    · subst same
      intro stored there
      rw [get?_erase_self] at there
      cases there
    · exact told.append (get?_erase_ne same) (fun _ _ _ ↦ by simp) rfl

/-- After every run, a stored object has a last persist. It has the numeric id and the creation that
this persist gave it, its version is one plus the number of its updates since, and its own fields
are those of the last update, or of the persist if there is none. -/
theorem life_of_stored (calls : List (Call M)) {oid : M.Oid} {stored : M.Object}
    (present : (reached calls).get? oid = some stored) :
    (∃ given taken since, LastPersist (recorded calls) oid given taken since) ∧
    ∀ given taken since, LastPersist (recorded calls) oid given taken since →
      stored.numericId = taken.numericId ∧
      stored.tracking.createdAt = taken.tracking.createdAt ∧
      stored.tracking.createdBy = taken.tracking.createdBy ∧
      stored.version.number.val = 1 + (updates oid since).length ∧
      stored.own = ((updates oid since).getLast?.getD given).own := by
  have told : Told (recorded calls) (reached calls) oid :=
    consistent_induction (P := fun steps s ↦ Told steps s oid) (fun _ there ↦ by cases there)
      (fun _ _ _ _ _ h consistent ih ↦ told_transition h consistent ih) calls
  obtain ⟨given, taken, since, last, h⟩ := told stored present
  refine ⟨⟨given, taken, since, last⟩, ?_⟩
  intro m n later last'
  obtain ⟨rfl, rfl, rfl⟩ := last.unique last'
  exact ⟨h.numericId, h.createdAt, h.createdBy, h.version, h.own⟩

/-- A note that was taken out and taken in again has the id of its second life and one update. -/
theorem life_of_stored_notes :
    let stored : Catalogue.note.Object := ⟨some noteA, some (Word.zero 64).after.after.after,
      ⟨(Word.zero 64).after.after⟩, .empty, ("anew", ())⟩
    get? noteA (reached noteRun) = some stored ∧
    ∃ given taken since, LastPersist (recorded noteRun) noteA given taken since ∧
      stored.numericId = taken.numericId ∧ 2 = 1 + (updates noteA since).length ∧
      ("anew", ()) = ((updates noteA since).getLast?.getD given).own := by
  intro stored
  have present : get? noteA (reached noteRun) = some stored := by decide +kernel
  obtain ⟨⟨given, taken, since, last⟩, life⟩ := life_of_stored noteRun present
  obtain ⟨numericId, -, -, version, own⟩ := life given taken since last
  exact ⟨present, given, taken, since, last, numericId, version, own⟩

end Memory

end VersionedStore
