import VersionedStore.Schema.Decode
import VersionedStore.Schema.Encode
import VersionedStore.Schema.Faithful

/-!
# The members of a record

While a record is read, the fields whose members have been met have values and the others have none.
`Fields.given` is that state for the members of a value's own JSON, whatever their order, and
`settle_given` says that it settles to the value once all of them have been met: a member that was
not written stands for a null, and the value of its field is the one that fields without a member
take.
-/

namespace VersionedStore

/-- What holds of no fields and of a field before fields that it holds of, holds of all fields. -/
@[induction_eliminator]
theorem Fields.induction {motive : Fields → Prop} (nil : motive .nil)
    (cons : ∀ name presence schema rest, motive rest → motive (.cons name presence schema rest)) :
    (fs : Fields) → motive fs
  | .nil => nil
  | .cons name presence schema rest => cons name presence schema rest (induction nil cons rest)

mutual

private theorem isNull_encode_content (name : String) :
    (c : Content) → (v : c.Value) → (c.encode name v).isNull = false
  | .nothing, _ | .one _, _ | .fields _ _, _ => rfl

private theorem isNull_encode_cases : (cs : Cases) → (v : cs.Value) → (cs.encode v).isNull = false
  | .cons name content _, .inl v => isNull_encode_content name content v
  | .cons _ _ rest, .inr v => isNull_encode_cases rest v

end

/-- Only options and documents are written as null. -/
theorem Schema.isNull_encode {s : Schema} (h : s.nullable = false) (v : s.Value) :
    (s.encode v).isNull = false := by
  cases s with
  | optional | document => cases h
  | choice name content others =>
    cases v with
    | inl v => exact isNull_encode_content name content v
    | inr v => exact isNull_encode_cases others v
  | _ => rfl

private theorem absentValue_of_isNull {s : Schema} (faithful : s.faithful = true) {name : String}
    {presence : Presence} (absent : presence ≠ .required) {v : s.Value}
    (null : (s.encode v).isNull = true) : absentValue name presence s = .ok v := by
  cases s with
  | optional inner =>
    cases v with
    | none => rfl
    | some w =>
      have := Schema.isNull_encode (Schema.faithful_optional.mp faithful).1 w
      rw [Schema.encode, this] at null
      cases null
  | document =>
    obtain ⟨json, sorted⟩ := v
    cases json with
    | null => exact if_neg absent
    | _ => cases null
  | _ => exact absurd null (by rw [Schema.isNull_encode rfl]; exact Bool.false_ne_true)

namespace Fields

/-- The fields whose members have been met have their values. -/
def given : (fs : Fields) → fs.Values → (String → Bool) → fs.Partial
  | .nil, _, _ => ()
  | .cons name _ _ rest, (v, vs), met => (if met name then some v else none, rest.given vs met)

/-- When no member has been met, no field has a value. -/
theorem given_none (fs : Fields) (vs : fs.Values) : fs.given vs (fun _ ↦ false) = fs.unset := by
  induction fs with
  | nil => rfl
  | cons name presence schema rest ih => exact congrArg (Prod.mk none) (ih vs.2)

/-- Only the names of fields matter among the keys that have been met. -/
theorem given_congr (fs : Fields) (vs : fs.Values) {met met' : String → Bool}
    (h : ∀ k ∈ fs.names, met k = met' k) : fs.given vs met = fs.given vs met' := by
  induction fs with
  | nil => rfl
  | cons name presence schema rest ih =>
    obtain ⟨v, vs⟩ := vs
    rw [names, List.forall_mem_cons] at h
    rw [given, given, h.1, ih vs h.2]

/-- Before the member of the first field has been met, it has no value; afterwards it has its own,
and the other fields are as before. -/
theorem given_cons_own {name : String} (presence : Presence) {schema : Schema} {rest : Fields}
    (fresh : name ∉ rest.names) (v : schema.Value) (vs : rest.Values) {met : String → Bool}
    (unmet : met name = false) :
    (cons name presence schema rest).given (v, vs) met = (none, rest.given vs met) ∧
    (cons name presence schema rest).given (v, vs) (fun k ↦ k == name || met k) =
      (some v, rest.given vs met) := by
  have kept : rest.given vs (fun k ↦ k == name || met k) = rest.given vs met := by
    apply given_congr
    intro k hk
    have other : k ≠ name := fun eq ↦ fresh (eq ▸ hk)
    rw [beq_eq_false_iff_ne.mpr other, Bool.false_or]
  constructor
  · rw [given, unmet, if_neg Bool.false_ne_true]
  · rw [given, beq_self_eq_true, Bool.true_or, if_pos rfl, kept]

/-- Meeting the member of another field leaves the first as it was. -/
theorem given_cons_other {name key : String} {presence : Presence} {schema : Schema}
    {rest : Fields} (other : key ≠ name) (v : schema.Value) (vs : rest.Values)
    (met : String → Bool) :
    (cons name presence schema rest).given (v, vs) (fun k ↦ k == key || met k) =
      (if met name then some v else none, rest.given vs fun k ↦ k == key || met k) := by
  rw [given, beq_eq_false_iff_ne.mpr (Ne.symm other), Bool.false_or]

/-- Meeting one member and then others is meeting all of them. -/
theorem given_cons_keys (fs : Fields) (vs : fs.Values) (m : String × Json)
    (ms : List (String × Json)) (met : String → Bool) :
    (fs.given vs fun k ↦ (Dictionary.keys ms).contains k || (k == m.1 || met k)) =
      fs.given vs fun k ↦ (Dictionary.keys (m :: ms)).contains k || met k := by
  apply given_congr
  intro k _
  simp only [Dictionary.keys, List.map_cons, List.contains_cons]
  cases k == m.1 <;> simp

/-- When the members are those of a record, the next one and the others have not been met. -/
theorem unmet_cons {m : String × Json} {ms : List (String × Json)} {met : String → Bool}
    (distinct : (Dictionary.keys (m :: ms)).Nodup)
    (unmet : ∀ k ∈ Dictionary.keys (m :: ms), met k = false) :
    met m.1 = false ∧ ∀ k ∈ Dictionary.keys ms, (k == m.1 || met k) = false := by
  rw [Dictionary.keys, List.map_cons, List.nodup_cons] at distinct
  rw [Dictionary.keys, List.map_cons, List.forall_mem_cons] at unmet
  refine ⟨unmet.1, fun k hk ↦ ?_⟩
  have other : k ≠ m.1 := fun eq ↦ distinct.1 (eq ▸ hk)
  rw [beq_eq_false_iff_ne.mpr other, Bool.false_or, unmet.2 k hk]

/-- A member of a record goes by the name of a field. -/
theorem mem_names_of_mem_encode {fs : Fields} {vs : fs.Values} {m : String × Json}
    (h : m ∈ fs.encode vs) : m.1 ∈ fs.names := by
  induction fs with
  | nil => cases h
  | cons name presence schema rest ih =>
    obtain ⟨v, vs⟩ := vs
    rw [encode] at h
    split at h
    · exact List.mem_cons_of_mem name (ih h)
    · rcases List.mem_cons.mp h with rfl | h
      · exact List.mem_cons_self
      · exact List.mem_cons_of_mem name (ih h)

/-- A member of a record belongs to its first field or to one of the others. -/
theorem mem_encode_cons {name : String} {presence : Presence} {schema : Schema} {rest : Fields}
    {v : schema.Value} {vs : rest.Values} {m : String × Json}
    (h : m ∈ (cons name presence schema rest).encode (v, vs)) :
    m = (name, schema.encode v) ∨ m ∈ rest.encode vs := by
  rw [encode] at h
  split at h
  · exact .inr h
  · exact List.mem_cons.mp h

/-- The members of a record have keys of their own. -/
theorem nodup_keys_encode {fs : Fields} (faithful : fs.faithful = true) (vs : fs.Values) :
    (Dictionary.keys (fs.encode vs)).Nodup := by
  induction fs with
  | nil => exact List.nodup_nil
  | cons name presence schema rest ih =>
    obtain ⟨v, vs⟩ := vs
    obtain ⟨own, -, others⟩ := faithful_cons.mp faithful
    rw [encode]
    split
    · exact ih others vs
    · refine List.nodup_cons.mpr ⟨fun h ↦ own ?_, ih others vs⟩
      obtain ⟨m, hm, rfl⟩ := List.mem_map.mp h
      exact mem_names_of_mem_encode hm

/-- A field that has a value keeps it. -/
theorem settle_some {name : String} {presence : Presence} {schema : Schema} {rest : Fields}
    (v : schema.Value) {vs : rest.Values} {p : rest.Partial} (h : rest.settle p = .ok vs) :
    (cons name presence schema rest).settle (some v, p) = .ok (v, vs) :=
  congrArg (Except.bind · fun vs ↦ .ok (v, vs)) h

private theorem settle_none {name : String} {presence : Presence} {schema : Schema} {rest : Fields}
    {v : schema.Value} (absent : absentValue name presence schema = .ok v) {vs : rest.Values}
    {p : rest.Partial} (h : rest.settle p = .ok vs) :
    (cons name presence schema rest).settle (none, p) = .ok (v, vs) :=
  (congrArg (Except.bind · fun v ↦ rest.settle p >>= fun vs ↦ .ok (v, vs)) absent).trans
    (congrArg (Except.bind · fun vs ↦ .ok (v, vs)) h)

/-- Once all members have been met, the fields settle to the values that were written. -/
theorem settle_given {fs : Fields} (faithful : fs.faithful = true) (vs : fs.Values)
    {met : String → Bool} (all : ∀ m ∈ fs.encode vs, met m.1 = true) :
    fs.settle (fs.given vs met) = .ok vs := by
  induction fs with
  | nil => rfl
  | cons name presence schema rest ih =>
    obtain ⟨v, vs⟩ := vs
    obtain ⟨-, own, others⟩ := faithful_cons.mp faithful
    rw [given]
    rw [encode] at all
    split at all
    · next omitted =>
      have following := ih others vs all
      split
      · exact settle_some v following
      · refine settle_none (absentValue_of_isNull own ?_ omitted.2) following
        rw [omitted.1]
        decide
    · rw [List.forall_mem_cons] at all
      rw [if_pos all.1]
      exact settle_some v (ih others vs all.2)

end Fields

end VersionedStore
