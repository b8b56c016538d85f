import VersionedStore.Store.Basic

/-!
# The store in memory

Objects in the order in which they were taken in, each under its OID, and the last numeric id that
was given out. A merge puts the new object in the place of the old one, so the order stays.
-/

namespace VersionedStore

open Crud

/-- The word after this one; after the last comes zero. -/
def Word.after {bits : Nat} (n : Word bits) : Word bits :=
  ⟨(n.val + 1) % Nat.pow 2 bits, Nat.mod_lt _ (Nat.two_pow_pos bits)⟩

/-- The objects of a model and the last numeric id. -/
structure Memory (M : Model) where
  objects : List (M.Oid × M.Object)
  sequence : Word 64
  deriving DecidableEq

namespace Memory

variable {M : Model}

/-- No objects, and no numeric id given out. -/
def empty (M : Model) : Memory M := ⟨[], Word.zero 64⟩

instance : Inhabited (Memory M) := ⟨empty M⟩

/-- The object under an OID. -/
def get? (oid : M.Oid) (s : Memory M) : Option M.Object :=
  (s.objects.find? fun e ↦ e.1 = oid).map Prod.snd

/-- The number of objects. -/
def size (s : Memory M) : Nat := s.objects.length

/-- Take in an object under a new OID; the sequence moves on to its numeric id. -/
def insert (oid : M.Oid) (m : M.Object) (s : Memory M) : Memory M :=
  ⟨s.objects ++ [(oid, m)], s.sequence.after⟩

/-- Put another object in the place of the one under an OID. -/
def replace (oid : M.Oid) (m : M.Object) (s : Memory M) : Memory M :=
  { s with objects := s.objects.map fun e ↦ if e.1 = oid then (oid, m) else e }

/-- Take out the object under an OID. -/
def erase (oid : M.Oid) (s : Memory M) : Memory M :=
  { s with objects := s.objects.filter fun e ↦ e.1 ≠ oid }

/-- Does the first numeric id not come after the second? An object without one comes first. -/
def numericOrder (m n : M.Object) : Bool :=
  match m.numericId, n.numericId with
  | none, _ => true
  | some _, none => false
  | some i, some j => i.val ≤ j.val

/-- All objects by their numeric ids. -/
def all (s : Memory M) : List M.Object := (s.objects.map Prod.snd).mergeSort numericOrder

/-- Take in an object that is not there yet. -/
def persist (m : M.Object) : Attempt (Memory M) M.Object := do
  let oid ← m.requireOid
  m.tracking.validate
  let s ← get
  let text := M.oidKind.textOf oid
  if (s.get? oid).isSome then throw (.alreadyExists M.tag text)
  let numericId := s.sequence.after
  let stored := { m with numericId := some numericId, version := .first }
  Attempt.report (.inserted M.tag text numericId)
  set (s.insert oid stored)
  return stored

/-- Replace an object that is there. -/
def merge (m : M.Object) : Attempt (Memory M) (Merged M.Object) := do
  let oid ← m.requireOid
  let s ← get
  let text := M.oidKind.textOf oid
  let some stored := s.get? oid | throw (.notFound M.tag text)
  if stored.version ≠ m.version then throw (.versionConflict m.version stored.version)
  if stored.sameContent m then
    Attempt.report (.kept M.tag text stored.version)
    return .notModified stored
  (m.tracking.carryCreation stored.tracking).validate
  let version ← stored.version.tryNext
  let next := m.succeeding stored version
  set (s.replace oid next)
  Attempt.report (.replaced M.tag text version)
  return .updated next

/-- Take out an object. -/
def remove (oid : M.Oid) : Attempt (Memory M) (Option M.Object) := do
  let s ← get
  set (s.erase oid)
  return s.get? oid

/-- The operations of the store in memory. -/
def store (M : Model) : Store M (Memory M) where
  find oid := return (← get).get? oid
  contains oid := return ((← get).get? oid).isSome
  findAll := return (← get).all
  persist := persist
  merge := merge
  remove := remove

/-- Nothing is in the empty store. -/
theorem get?_empty (oid : M.Oid) : (empty M).get? oid = none := rfl

/-- The object that was put under an OID is found there, if one was there before. -/
theorem get?_replace_self {oid : M.Oid} {m : M.Object} {s : Memory M} (h : (s.get? oid).isSome) :
    (s.replace oid m).get? oid = some m := by
  obtain ⟨objects, n⟩ := s
  simp only [get?, replace] at h ⊢
  induction objects with
  | nil => simp at h
  | cons e es ih =>
    by_cases he : e.1 = oid
    · simp [he]
    · simp only [List.find?_cons, he, decide_false, List.map_cons, if_false] at h ⊢
      exact ih h

/-- Putting an object under one OID leaves the others alone. -/
theorem get?_replace_ne {oid other : M.Oid} {m : M.Object} {s : Memory M} (h : other ≠ oid) :
    (s.replace oid m).get? other = s.get? other := by
  obtain ⟨objects, n⟩ := s
  simp only [get?, replace]
  induction objects with
  | nil => rfl
  | cons e es ih =>
    by_cases he : e.1 = oid
    · have : ¬ e.1 = other := fun ho ↦ h (ho ▸ he)
      simp only [List.map_cons, he, if_true, List.find?_cons, Ne.symm h, decide_false, ih]
    · by_cases ho : e.1 = other
      · subst ho
        simp [he]
      · simp only [List.map_cons, he, if_false, List.find?_cons, ho, decide_false, ih]

/-- What was taken out is no longer there. -/
theorem get?_erase_self (oid : M.Oid) (s : Memory M) : (s.erase oid).get? oid = none := by
  simp only [get?, erase, Option.map_eq_none_iff, List.find?_eq_none, List.mem_filter]
  intro e he
  simpa using he.2

/-- Taking out one OID leaves the others alone. -/
theorem get?_erase_ne {oid other : M.Oid} {s : Memory M} (h : other ≠ oid) :
    (s.erase oid).get? other = s.get? other := by
  obtain ⟨objects, n⟩ := s
  simp only [get?, erase]
  induction objects with
  | nil => rfl
  | cons e es ih =>
    by_cases he : e.1 = oid
    · have : ¬ e.1 = other := fun ho ↦ h (ho ▸ he)
      simp only [List.filter_cons, he, ne_eq, not_true_eq_false, decide_false, Bool.false_eq_true,
        if_false, List.find?_cons, Ne.symm h, ih]
    · by_cases ho : e.1 = other
      · subst ho
        simp [he]
      · simp only [List.filter_cons, he, ne_eq, not_false_eq_true, decide_true, if_true,
          List.find?_cons, ho, decide_false, ih]

end Memory

end VersionedStore
