import VersionedStore.Failure

/-!
# Tracking

Who created an object and when, and who changed it last and when. Creating counts as the first
change. Tracking is coherent when the last change does not precede the creation and nothing is
changed that was never created.
-/

namespace VersionedStore

/-- Who created and who last changed an object, and when. -/
structure Tracking where
  createdAt : Option Instant
  createdBy : Option String
  updatedAt : Option Instant
  updatedBy : Option String
  deriving DecidableEq

namespace Tracking

/-- No creation and no change. -/
def empty : Tracking := ⟨none, none, none, none⟩

instance : Inhabited Tracking := ⟨empty⟩

/-- Record a change by a user. -/
def stampUpdated (t : Tracking) (user : Option String) (now : Instant) : Tracking :=
  { t with updatedAt := some now, updatedBy := user }

/-- Record the creation by a user, which is the first change as well. -/
def stampCreated (t : Tracking) (user : Option String) (now : Instant) : Tracking :=
  { t with createdAt := some now, createdBy := user }.stampUpdated user now

/-- Take over the creation from the stored tracking. -/
def carryCreation (t stored : Tracking) : Tracking :=
  { t with createdAt := stored.createdAt, createdBy := stored.createdBy }

/-- Check that creation and last change fit together. -/
def validate (t : Tracking) : Except Failure Unit :=
  match t.createdAt, t.updatedAt with
  | some created, some updated =>
    if updated < created then .error (.invalidValue .updatedBeforeCreation) else .ok ()
  | none, some _ => .error (.invalidValue .neverCreated)
  | _, none => .ok ()

/-- Creation and last change fit together. -/
def Coherent (t : Tracking) : Prop :=
  ∀ updated ∈ t.updatedAt, ∃ created ∈ t.createdAt, created ≤ updated

/-- The fields of tracking. -/
def fields : Fields :=
  .cons "created_at" .required (.optional .instant) <|
  .cons "created_by" .required (.optional .text) <|
  .cons "last_updated_at" .required (.optional .instant) <|
  .cons "last_updated_by" .required (.optional .text) .nil

/-- Tracking is written with all its fields. -/
instance : Coded Tracking where
  schema := .record "struct TrackingInfo" false fields
  toValue t := (t.createdAt, t.createdBy, t.updatedAt, t.updatedBy, ())
  ofValue v :=
    let (createdAt, createdBy, updatedAt, updatedBy, _) := v
    ⟨createdAt, createdBy, updatedAt, updatedBy⟩
  ofValue_toValue _ := rfl
  toValue_ofValue _ := rfl

/-- Tracking is valid exactly when it is coherent. -/
theorem validate_eq_ok_iff {t : Tracking} : t.validate = .ok () ↔ t.Coherent := by
  obtain ⟨created, -, updated, -⟩ := t
  cases created with
  | none => cases updated <;> simp [validate, Coherent]
  | some created =>
    cases updated with
    | none => simp [validate, Coherent]
    | some updated =>
      simp only [validate, Coherent]
      split
      · next h => simpa [Instant.le_iff] using Instant.lt_iff.mp h
      · next h => simpa using Instant.le_of_not_lt h

/-- The creation that is recorded is the given one. -/
theorem stampCreated_eq (t : Tracking) (user : Option String) (now : Instant) :
    t.stampCreated user now = ⟨some now, user, some now, user⟩ := rfl

/-- Tracking that records a creation is coherent. -/
theorem coherent_stampCreated (t : Tracking) (user : Option String) (now : Instant) :
    (t.stampCreated user now).Coherent := by
  simp [Coherent, stampCreated_eq, Instant.le_refl]

end Tracking

end VersionedStore
