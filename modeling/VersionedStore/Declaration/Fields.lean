import VersionedStore.Declaration.Struct

/-!
# Leading fields

The fields that every model has stand before its own, in a fixed order. Where a struct declares one
of them itself, its declaration is used.
-/

namespace VersionedStore.Declaration

/-- A field that a struct must have. -/
structure RequiredField where
  name : String
  type : List Tree
  deriving DecidableEq

/-- The declaration of a required field among the fields, or a new one. -/
def RequiredField.among (r : RequiredField) (visibility : List Tree) (fields : List NamedField) :
    NamedField :=
  (fields.find? fun f ↦ f.name == r.name).getD ⟨⟨[], visibility, r.type⟩, r.name⟩

/-- The required fields in order, and then the others in theirs. -/
def leadingFields (required : List RequiredField) (visibility : List Tree)
    (fields : List NamedField) : List NamedField :=
  required.map (fun r ↦ r.among visibility fields) ++
    fields.filter fun f ↦ !required.any fun r ↦ f.name == r.name

/-- A required field keeps its name. -/
theorem RequiredField.name_among (r : RequiredField) (visibility : List Tree)
    (fields : List NamedField) : (r.among visibility fields).name = r.name := by
  unfold RequiredField.among
  cases h : fields.find? fun f ↦ f.name == r.name with
  | none => rfl
  | some f => simpa using List.find?_some h

end VersionedStore.Declaration
