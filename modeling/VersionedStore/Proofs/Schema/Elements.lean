import Mathlib.Data.List.Basic
import VersionedStore.Proofs.Schema.Members

/-!
# What the fields of a record are read from

A record is read from the members of an object, each for the field of its name, or from the items
of an array, each for the field in its place. Either way the value of a field is what the element
for it reads as on its own, whatever the other elements are.
-/

namespace VersionedStore

/-- Members are taken one after another, each of them for a field or, unless the record is closed,
for none. -/
theorem takeMembers_member {P : Type} {closed : Bool} {known : List String}
    {take : String → Json → P → Except Json.Fault (Option P)} {key : String} {v : Json}
    {ms : List (String × Json)} {p q : P} :
    takeMembers closed known take ((key, v) :: ms) p = .ok q ↔
      ∃ taken, take key v p = .ok taken ∧ (taken = none → closed = false) ∧
        takeMembers closed known take ms (taken.getD p) = .ok q := by
  rw [takeMembers]
  constructor
  · intro h
    obtain ⟨taken, took, follows⟩ := ok_of_bind h
    refine ⟨taken, took, ?_⟩
    cases taken with
    | some t => exact ⟨nofun, follows⟩
    | none =>
      cases closed with
      | true => cases follows
      | false => exact ⟨fun _ ↦ rfl, follows⟩
  · rintro ⟨taken, took, belongs, follows⟩
    refine (bind_of_ok took _).trans ?_
    cases taken with
    | some t => exact follows
    | none =>
      cases belongs rfl
      exact follows

namespace Fields

/-- The values of fields with their names and schemas, in the order of the fields. -/
def valued : (fs : Fields) → fs.Values → List (String × (s : Schema) × s.Value)
  | .nil, _ => []
  | .cons name _ schema rest, (v, vs) => (name, ⟨schema, v⟩) :: rest.valued vs

/-- A value goes by the name of a field. -/
theorem mem_names_of_mem_valued {fs : Fields} {vs : fs.Values} {k : String} {s : Schema}
    {x : s.Value} (h : (k, ⟨s, x⟩) ∈ fs.valued vs) : k ∈ fs.names := by
  induction fs with
  | nil => cases h
  | cons name presence schema rest ih =>
    rcases List.mem_cons.mp h with same | h
    · cases same
      exact List.mem_cons_self
    · exact List.mem_cons_of_mem name (ih h)

variable {name : String} {presence : Presence} {schema : Schema} {rest : Fields}

private theorem decodeMember_cases {key : String} {v : Json} {g : Option schema.Value}
    {q : rest.Partial}
    {taken : Option (cons name presence schema rest).Partial}
    (h : (cons name presence schema rest).decodeMember key v (g, q) = .ok taken) :
    (key = name ∧ ∃ a, schema.decode v = .ok a ∧ taken = some (some a, q) ∧ g = none) ∨
    (key ≠ name ∧ ∃ others, rest.decodeMember key v q = .ok others ∧
      taken = others.map (Prod.mk g)) := by
  by_cases own : key = name
  · cases g with
    | some a => cases (if_pos own).symm.trans h
    | none =>
      obtain ⟨a, read, rfl⟩ := ok_of_map ((if_pos own).symm.trans h)
      exact .inl ⟨own, a, read, rfl, rfl⟩
  · obtain ⟨others, read, rfl⟩ := ok_of_map ((if_neg own).symm.trans h)
    exact .inr ⟨own, others, read, rfl⟩

private theorem takeMembers_cons {closed : Bool} {known : List String} {ms : List (String × Json)}
    {g : Option schema.Value} {q : rest.Partial} {p : (cons name presence schema rest).Partial}
    (h : takeMembers closed known (cons name presence schema rest).decodeMember ms (g, q) = .ok p) :
    (∀ a, g = some a → p.1 = some a) ∧
    (∀ v, (name, v) ∈ ms → ∃ a, schema.decode v = .ok a ∧ p.1 = some a) ∧
    takeMembers closed known rest.decodeMember (ms.filter fun m ↦ m.1 ≠ name) q = .ok p.2 := by
  induction ms generalizing g q with
  | nil =>
    cases h
    exact ⟨fun _ h ↦ h, fun _ h ↦ (nomatch h), rfl⟩
  | cons m ms ih =>
    obtain ⟨key, v⟩ := m
    obtain ⟨taken, took, belongs, follows⟩ := takeMembers_member.mp h
    rcases decodeMember_cases took with ⟨rfl, a, read, rfl, rfl⟩ | ⟨other, others, passed, rfl⟩
    · -- The first field had no value yet; the one that it takes here stays.
      obtain ⟨kept, met, apart⟩ := ih follows
      refine ⟨fun _ h ↦ (nomatch h), fun w hw ↦ ?_, ?_⟩
      · rcases List.mem_cons.mp hw with same | hw
        · cases same
          exact ⟨a, read, kept a rfl⟩
        · exact met w hw
      · rw [List.filter_cons_of_neg (by simp)]
        exact apart
    · -- The member leaves the first field alone, and the others take it as they do on their own.
      have follows : takeMembers closed known (cons name presence schema rest).decodeMember ms
          (g, others.getD q) = .ok p := by
        cases others <;> exact follows
      obtain ⟨kept, met, apart⟩ := ih follows
      refine ⟨kept, fun w hw ↦ ?_, ?_⟩
      · rcases List.mem_cons.mp hw with same | hw
        · cases same
          exact absurd rfl other
        · exact met w hw
      · rw [List.filter_cons_of_pos (by simpa using other)]
        exact takeMembers_member.mpr ⟨others, passed, fun unknown ↦ belongs (unknown ▸ rfl), apart⟩

private theorem settle_cons {g : Option schema.Value} {q : rest.Partial}
    {vs : (cons name presence schema rest).Values}
    (h : (cons name presence schema rest).settle (g, q) = .ok vs) :
    (∀ a, g = some a → vs.1 = a) ∧ rest.settle q = .ok vs.2 := by
  have others (v : schema.Value) (h : (rest.settle q >>= fun vs ↦ Except.ok (v, vs)) = .ok vs) :
      vs.1 = v ∧ rest.settle q = .ok vs.2 := by
    obtain ⟨others, settled, eq⟩ := ok_of_bind h
    cases eq
    exact ⟨rfl, settled⟩
  cases g with
  | some v =>
    obtain ⟨first, settled⟩ := others v h
    exact ⟨fun a eq ↦ (Option.some.inj eq) ▸ first, settled⟩
  | none =>
    obtain ⟨v, -, h⟩ := ok_of_bind (x := absentValue name presence schema)
      (f := fun v ↦ rest.settle q >>= fun vs ↦ .ok (v, vs)) h
    exact ⟨nofun, (others v h).2⟩

private theorem decode_of_member {fs : Fields} (distinct : fs.names.Nodup) {closed : Bool}
    {known : List String} {ms : List (String × Json)} {q p : fs.Partial} {vs : fs.Values}
    (taken : takeMembers closed known fs.decodeMember ms q = .ok p) (settled : fs.settle p = .ok vs)
    {k : String} {v : Json} (given : (k, v) ∈ ms) {s : Schema} {x : s.Value}
    (field : (k, ⟨s, x⟩) ∈ fs.valued vs) : s.decode v = .ok x := by
  induction fs generalizing ms with
  | nil => cases field
  | cons name presence schema rest ih =>
    obtain ⟨own, distinct⟩ := List.nodup_cons.mp distinct
    obtain ⟨-, met, apart⟩ := takeMembers_cons taken
    obtain ⟨has, settled⟩ := settle_cons settled
    rcases List.mem_cons.mp field with same | field
    · cases same
      obtain ⟨a, read, holds⟩ := met v given
      rw [read, has a holds]
    · have other : k ≠ name := fun eq ↦ own (eq ▸ mem_names_of_mem_valued field)
      exact ih distinct apart settled (List.mem_filter.mpr ⟨given, by simpa using other⟩) field

private theorem decode_of_item {fs : Fields} (distinct : fs.names.Nodup) {expected : String}
    {index left : Nat} {ws : List Json} {vs : fs.Values}
    (read : fs.decodeItems expected index ws = .ok (vs, left)) {k : String} {w : Json}
    (given : ws[fs.names.idxOf k]? = some w) {s : Schema} {x : s.Value}
    (field : (k, ⟨s, x⟩) ∈ fs.valued vs) : s.decode w = .ok x := by
  induction fs generalizing index ws with
  | nil => cases field
  | cons name presence schema rest ih =>
    obtain ⟨own, distinct⟩ := List.nodup_cons.mp distinct
    cases ws with
    | nil => cases given
    | cons first ws =>
      obtain ⟨value, reads, read⟩ := ok_of_bind read
      obtain ⟨⟨others, left⟩, read, eq⟩ := ok_of_bind read
      cases eq
      rcases List.mem_cons.mp field with same | field
      · cases same
        rw [names, List.idxOf_cons_self] at given
        cases given
        exact reads
      · have other : k ≠ name := fun eq ↦ own (eq ▸ mem_names_of_mem_valued field)
        rw [names, List.idxOf_cons_ne _ (Ne.symm other)] at given
        exact ih distinct read given field

/-- The element of a JSON value that is for the field of a name: the member of this name, or the
item in the place of the field. -/
def element? (fs : Fields) (k : String) : Json → Option Json
  | .obj ms => Dictionary.get? k ms
  | .arr ws => ws[fs.names.idxOf k]?
  | _ => none

end Fields

/-- A field of a record has the value that the element for it reads as. -/
theorem Schema.decode_element {expected : String} {closed : Bool} {fields : Fields}
    (distinct : fields.names.Nodup) {v : Json} {vs : fields.Values}
    (read : (Schema.record expected closed fields).decode v = .ok vs) {k : String} {w : Json}
    (given : fields.element? k v = some w) {s : Schema} {x : s.Value}
    (field : (k, ⟨s, x⟩) ∈ fields.valued vs) : s.decode w = .ok x := by
  cases v with
  | obj ms =>
    obtain ⟨p, taken, settled⟩ := ok_of_bind read
    exact Fields.decode_of_member distinct taken settled (Dictionary.mem_of_get? given) field
  | arr ws =>
    obtain ⟨⟨values, left⟩, read, whole⟩ := ok_of_bind read
    by_cases spent : left = 0
    · cases (if_pos spent).symm.trans whole
      exact Fields.decode_of_item distinct read given field
    · cases (if_neg spent).symm.trans whole
  | _ => cases given

end VersionedStore
