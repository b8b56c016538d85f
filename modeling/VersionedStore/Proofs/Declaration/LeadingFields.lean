import Mathlib.Data.List.Forall2
import Mathlib.Data.List.Nodup
import VersionedStore.Declaration.Expansion

/-!
# Required fields in front

The leading fields of a struct are the required ones, each once and in the required order: the
struct's own where it declares the name, else a new one. All its other fields follow in their order.
Nothing is lost, and putting the required fields in front again changes nothing.
-/

namespace VersionedStore.Declaration

namespace RequiredField

/-- The field that a struct gets for a required one that it does not declare. -/
def fresh (r : RequiredField) (visibility : List Tree) : NamedField :=
  ⟨⟨[], visibility, r.type⟩, r.name⟩

/-- A field stands for a required one: the declaration of that name, or a new field if there is no
such declaration. -/
inductive Met (r : RequiredField) (visibility : List Tree) (fields : List NamedField) :
    NamedField → Prop where
  | declared {f : NamedField} (own : f ∈ fields) (named : f.name = r.name) :
      Met r visibility fields f
  | added (absent : r.name ∉ fields.map (·.name)) : Met r visibility fields (r.fresh visibility)

variable {r : RequiredField} {visibility : List Tree} {fields : List NamedField}

/-- What is taken for a required field stands for it. -/
theorem met_among (r : RequiredField) (visibility : List Tree) (fields : List NamedField) :
    r.Met visibility fields (r.among visibility fields) := by
  unfold among
  cases found : fields.find? fun f ↦ f.name == r.name with
  | none =>
    refine .added fun declared ↦ ?_
    obtain ⟨f, own, named⟩ := List.mem_map.mp declared
    exact List.find?_eq_none.mp found f own (beq_iff_eq.mpr named)
  | some f =>
    have named := List.find?_some found
    exact .declared (List.mem_of_find?_eq_some found) (beq_iff_eq.mp named)

private theorem Met.name_eq {f : NamedField} (h : r.Met visibility fields f) : f.name = r.name := by
  cases h with
  | declared _ named => exact named
  | added => rfl

/-- Where names are declared once, one field stands for a required one. -/
theorem Met.unique (distinct : (fields.map (·.name)).Nodup) {f g : NamedField}
    (hf : r.Met visibility fields f) (hg : r.Met visibility fields g) : f = g := by
  cases hf with
  | declared own named =>
    cases hg with
    | declared own' named' =>
      exact List.inj_on_of_nodup_map distinct own own' (named.trans named'.symm)
    | added absent => exact absurd (named ▸ List.mem_map_of_mem own) absent
  | added absent =>
    cases hg with
    | declared own named => exact absurd (named ▸ List.mem_map_of_mem own) absent
    | added => rfl

end RequiredField

/-- The fields of a struct that are not required ones, in their order. -/
def otherFields (required : List RequiredField) (fields : List NamedField) : List NamedField :=
  fields.filter fun f ↦ !required.any fun r ↦ f.name == r.name

variable {required : List RequiredField} {fields : List NamedField}

/-- The other fields are those whose names are not required. -/
theorem mem_otherFields {f : NamedField} :
    f ∈ otherFields required fields ↔ f ∈ fields ∧ f.name ∉ required.map (·.name) := by
  rw [otherFields, List.mem_filter]
  simp only [Bool.not_eq_true', List.any_eq_false, beq_iff_eq, List.mem_map, not_exists, not_and]
  exact and_congr_right fun _ ↦ forall₂_congr fun r _ ↦ not_congr eq_comm

/-- The fields are the leading ones and the others. -/
theorem leadingFields_eq (required : List RequiredField) (visibility : List Tree)
    (fields : List NamedField) :
    leadingFields required visibility fields =
      required.map (fun r ↦ r.among visibility fields) ++ otherFields required fields := rfl

/-- The names of the fields are the required ones and those of the others. -/
theorem names_leadingFields (required : List RequiredField) (visibility : List Tree)
    (fields : List NamedField) :
    (leadingFields required visibility fields).map (·.name) =
      required.map (·.name) ++ (otherFields required fields).map (·.name) := by
  simp [leadingFields_eq, Function.comp_def, RequiredField.name_among]

/-- Where no name is required twice and none declared twice, none stands there twice. -/
theorem nodup_names_leadingFields (wanted : (required.map (·.name)).Nodup)
    (declared : (fields.map (·.name)).Nodup) (visibility : List Tree) :
    ((leadingFields required visibility fields).map (·.name)).Nodup := by
  rw [names_leadingFields, List.nodup_append]
  refine ⟨wanted, declared.sublist (List.Sublist.map _ List.filter_sublist), ?_⟩
  rintro _ isRequired _ isOther rfl
  obtain ⟨f, other, rfl⟩ := List.mem_map.mp isOther
  exact (mem_otherFields.mp other).2 isRequired

/-- The new fields of a struct: one for each required name that it does not declare. -/
def addedFields (required : List RequiredField) (visibility : List Tree)
    (fields : List NamedField) : List NamedField :=
  (required.filter fun r ↦ r.name ∉ fields.map (·.name)).map fun r ↦ r.fresh visibility

/-- A field is one of the new ones if its name is required and not declared. -/
theorem mem_addedFields {visibility : List Tree} {f : NamedField} :
    f ∈ addedFields required visibility fields ↔
      ∃ r ∈ required, r.name ∉ fields.map (·.name) ∧ f = r.fresh visibility := by
  simp [addedFields, eq_comm, and_assoc]

private theorem mem_leadingFields (declared : (fields.map (·.name)).Nodup) {visibility : List Tree}
    {f : NamedField} :
    f ∈ leadingFields required visibility fields ↔
      f ∈ fields ∨ f ∈ addedFields required visibility fields := by
  rw [leadingFields_eq, List.mem_append, List.mem_map, mem_otherFields, mem_addedFields]
  constructor
  · rintro (⟨r, isRequired, same⟩ | ⟨own, -⟩)
    · have met : r.Met visibility fields f := same ▸ r.met_among visibility fields
      cases met with
      | declared own => exact .inl own
      | added absent => exact .inr ⟨r, isRequired, absent, rfl⟩
    · exact .inl own
  · rintro (own | ⟨r, isRequired, absent, rfl⟩)
    · by_cases named : f.name ∈ required.map (·.name)
      · obtain ⟨r, isRequired, named⟩ := List.mem_map.mp named
        have met : r.Met visibility fields f := .declared own named.symm
        exact .inl ⟨r, isRequired, (r.met_among visibility fields).unique declared met⟩
      · exact .inr ⟨own, named⟩
    · exact .inl ⟨r, isRequired, (r.met_among visibility fields).unique declared (.added absent)⟩

/-- Nothing is lost or doubled: the fields are those that the struct declares and the new ones. -/
theorem leadingFields_perm (wanted : (required.map (·.name)).Nodup)
    (declared : (fields.map (·.name)).Nodup) (visibility : List Tree) :
    (leadingFields required visibility fields).Perm
      (fields ++ addedFields required visibility fields) := by
  have distinct := nodup_names_leadingFields wanted declared visibility
  have addedOnce : (addedFields required visibility fields).Nodup := by
    apply List.Nodup.of_map (·.name)
    rw [addedFields, List.map_map]
    exact wanted.sublist (List.Sublist.map _ List.filter_sublist)
  refine (List.perm_ext_iff_of_nodup distinct.of_map ?_).mpr fun f ↦ ?_
  · rw [List.nodup_append]
    refine ⟨declared.of_map, addedOnce, ?_⟩
    rintro f own _ added rfl
    obtain ⟨r, -, absent, rfl⟩ := mem_addedFields.mp added
    exact absent (List.mem_map_of_mem own)
  · rw [mem_leadingFields declared, List.mem_append]

/-- Fields that stand in this order already stay as they are, whatever new ones would look like. -/
theorem leadingFields_leadingFields (wanted : (required.map (·.name)).Nodup)
    (declared : (fields.map (·.name)).Nodup) (visibility again : List Tree) :
    leadingFields required again (leadingFields required visibility fields) =
      leadingFields required visibility fields := by
  have distinct := nodup_names_leadingFields wanted declared visibility
  have leading : ∀ r ∈ required, r.among again (leadingFields required visibility fields) =
      r.among visibility fields := by
    intro r isRequired
    have own : r.among visibility fields ∈ leadingFields required visibility fields :=
      List.mem_append_left _ (List.mem_map_of_mem isRequired)
    exact (r.met_among again _).unique distinct (.declared own (r.name_among visibility fields))
  have others : otherFields required (leadingFields required visibility fields) =
      otherFields required fields := by
    rw [leadingFields_eq, otherFields, List.filter_append, List.filter_eq_nil_iff.mpr]
    · simp [otherFields]
    · intro f isLeading
      obtain ⟨r, isRequired, rfl⟩ := List.mem_map.mp isLeading
      have named := r.name_among visibility fields
      simpa using ⟨r, isRequired, named⟩
  rw [leadingFields_eq _ again, others, List.map_congr_left leading, ← leadingFields_eq]

/-- Putting required fields in front of those of a struct gives the required names in their order,
each with the declaration of the struct or else a new field, and then all other fields unchanged and
in their order. No name stands there twice, nothing is lost and nothing else is there, and doing it
again changes nothing. -/
theorem leadingFields_arranged (wanted : (required.map (·.name)).Nodup)
    (declared : (fields.map (·.name)).Nodup) (visibility : List Tree) :
    ∃ leading others, leadingFields required visibility fields = leading ++ others ∧
      List.Forall₂ (fun r f ↦ f.name = r.name ∧ RequiredField.Met r visibility fields f) required
        leading ∧
      others.Sublist fields ∧
      (∀ f, f ∈ others ↔ f ∈ fields ∧ f.name ∉ required.map (·.name)) ∧
      ((leading ++ others).map (·.name)).Nodup ∧
      (leading ++ others).Perm (fields ++ addedFields required visibility fields) ∧
      ∀ again, leadingFields required again (leading ++ others) = leading ++ others := by
  refine ⟨_, _, leadingFields_eq required visibility fields, ?_, List.filter_sublist,
    fun f ↦ mem_otherFields, ?_⟩
  · rw [List.forall₂_map_right_iff, List.forall₂_same]
    exact fun r _ ↦ ⟨(r.met_among visibility fields).name_eq, r.met_among visibility fields⟩
  · rw [← leadingFields_eq]
    exact ⟨nodup_names_leadingFields wanted declared visibility,
      leadingFields_perm wanted declared visibility,
      leadingFields_leadingFields wanted declared visibility⟩

/-- A struct declares two of the fields of a model among its own, in the wrong order: they move to
the front, and the others that a model has are added. -/
theorem leadingFields_arranged_note :
    let declared : List NamedField := [⟨⟨[], [], [.word "String"]⟩, "title"⟩,
      ⟨⟨[⟨[.word "doc"]⟩], [], [.word "T"]⟩, "tracking"⟩, ⟨⟨[], [], [.word "Id"]⟩, "oid"⟩]
    let required := modelFields [.word "NoteOid"]
    (required.map (·.name)).Nodup ∧ (declared.map (·.name)).Nodup ∧
      (leadingFields required [.word "pub"] declared).Perm
        (declared ++ addedFields required [.word "pub"] declared) ∧
      (leadingFields required [.word "pub"] declared).map (·.name) =
        ["oid", "numeric_id", "entity_version", "tracking", "title"] := by
  intro declared required
  have wanted : (required.map (·.name)).Nodup := by decide
  have once : (declared.map (·.name)).Nodup := by decide
  obtain ⟨leading, others, same, -, -, -, -, perm, -⟩ :=
    leadingFields_arranged wanted once [.word "pub"]
  exact ⟨wanted, once, same ▸ perm, by decide⟩

end VersionedStore.Declaration
