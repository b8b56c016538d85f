import VersionedStore.Proofs.Instant.Text
import VersionedStore.Proofs.Schema.Members
import VersionedStore.Schema.Coded

/-!
# The document of a value reads as the value

A document has its keys in order, which need not be the order of the fields. Reading takes the
members one by one, whatever their order, and each belongs to the field that it was written for;
so a value of a faithful schema comes back from its document.
-/

namespace VersionedStore

/-- A case under its name: the name alone, or what it holds as the only member. -/
def Json.tagged (name : String) : Option Json → Json
  | none => .str name
  | some held => .obj [(name, held)]

private theorem Json.isNull_sort (v : Json) : v.sort.isNull = v.isNull := by
  cases v <;> rfl

private theorem Schema.decode_optional {inner : Schema} {v : Json} (solid : v.isNull = false) :
    (Schema.optional inner).decode v = (inner.decode v).map some := by
  cases v with
  | null => cases solid
  | _ => rfl

private theorem Schema.decode_first {name : String} {content : Content} {others : Cases}
    {held : Option Json} {v : content.Value} (read : content.decode held = .ok v) :
    (Schema.choice name content others).decode (Json.tagged name held) = .ok (.inl v) := by
  have picked := congrArg (Except.map (Sum.inl (β := others.Value))) read
  cases held <;> exact (if_pos rfl).trans picked

private theorem Schema.decode_other {name key : String} {content : Content} {others : Cases}
    {held : Option Json} {v : others.Value} (other : key ≠ name)
    (read : others.decode (name :: others.names) key held = .ok v) :
    (Schema.choice name content others).decode (Json.tagged key held) = .ok (.inr v) := by
  have picked := congrArg (Except.map (Sum.inr (α := content.Value))) read
  cases held <;> exact (if_neg other).trans picked

private theorem mapM_of_forall {α β ε : Type} {f : β → Except ε α} {g : α → β} (vs : List α)
    (back : ∀ v ∈ vs, f (g v) = .ok v) : (vs.map g).mapM f = .ok vs := by
  induction vs with
  | nil => rfl
  | cons v vs ih =>
    rw [List.forall_mem_cons] at back
    rw [List.map_cons, List.mapM_cons, back.1]
    refine (bind_of_ok rfl _).trans ?_
    exact bind_of_ok (ih back.2) _

private theorem Schema.decode_items {item : Schema} (vs : List item.Value)
    (back : ∀ v ∈ vs, item.decode (item.encode v).sort = .ok v) :
    (Schema.list item).decode (Json.arr (vs.map item.encode)).sort = .ok vs := by
  rw [Json.sort, Json.sortItems_eq_map, List.map_map]
  exact mapM_of_forall vs back

namespace Fields

private theorem decodeMember_own {name : String} {presence : Presence} {schema : Schema}
    {rest : Fields}
    {v : Json} {value : schema.Value} (read : schema.decode v = .ok value) (p : rest.Partial) :
    (cons name presence schema rest).decodeMember name v (none, p) = .ok (some (some value, p)) :=
  (if_pos rfl).trans (congrArg (Except.map fun value ↦ some (some value, p)) read)

private theorem decodeMember_other {name key : String} {presence : Presence} {schema : Schema}
    {rest : Fields} {v : Json} {p q : rest.Partial} (other : key ≠ name)
    (taken : rest.decodeMember key v p = .ok (some q)) (value : Option schema.Value) :
    (cons name presence schema rest).decodeMember key v (value, p) = .ok (some (value, q)) :=
  (if_neg other).trans (congrArg (Except.map (Option.map (Prod.mk value))) taken)

/-- A member is taken for the field that it was written for. -/
def Takes (fs : Fields) (vs : fs.Values) : Prop :=
  ∀ m ∈ fs.encode vs, ∀ met : String → Bool, met m.1 = false →
    fs.decodeMember m.1 m.2.sort (fs.given vs met) =
      .ok (some (fs.given vs fun k ↦ k == m.1 || met k))

/-- Members that are written for fields are taken one by one, in any order. -/
theorem Takes.takeMembers {fs : Fields} {vs : fs.Values} (takes : fs.Takes vs) (closed : Bool)
    {ms : List (String × Json)} (written : ∀ m ∈ ms, m ∈ Json.sortMembers (fs.encode vs))
    (distinct : (Dictionary.keys ms).Nodup) {met : String → Bool}
    (fresh : ∀ k ∈ Dictionary.keys ms, met k = false) :
    takeMembers closed fs.names fs.decodeMember ms (fs.given vs met) =
      .ok (fs.given vs fun k ↦ (Dictionary.keys ms).contains k || met k) := by
  induction ms generalizing met with
  | nil => rfl
  | cons m ms ih =>
    obtain ⟨first, others⟩ := unmet_cons distinct fresh
    rw [List.forall_mem_cons, Json.sortMembers_eq_map, List.mem_map] at written
    obtain ⟨⟨n, own, rfl⟩, written⟩ := written
    rw [← Json.sortMembers_eq_map] at written
    refine (bind_of_ok (takes n own met first) _).trans ?_
    exact (ih written (List.nodup_cons.mp distinct).2 others).trans
      (congrArg Except.ok (given_cons_keys fs vs _ ms met))

/-- Fields read back from the document of their record. -/
theorem Takes.decode_record {fs : Fields} (faithful : fs.faithful = true) {vs : fs.Values}
    (takes : fs.Takes vs) (closed : Bool) :
    (do
      let p ← VersionedStore.takeMembers closed fs.names fs.decodeMember
        (Dictionary.ofPairs (Json.sortMembers (fs.encode vs))) fs.unset
      fs.settle p) = .ok vs := by
  have read := takes.takeMembers closed (fun m hm ↦ Dictionary.mem_of_mem_ofPairs hm)
    (Dictionary.nodup_keys_of_ascending (Dictionary.ascending_ofPairs _)) (fun _ _ ↦ rfl)
  rw [given_none] at read
  refine (bind_of_ok read _).trans (settle_given faithful vs ?_)
  intro m hm
  have key : m.1 ∈ Dictionary.keys (fs.encode vs) := List.mem_map_of_mem hm
  rw [← Json.keys_sortMembers, ← Dictionary.mem_keys_ofPairs] at key
  simp [key]

end Fields

/-- A UUID is read from its text. -/
theorem uuidOfText_text (u : Uuid) : uuidOfText u.text = .ok u := by
  rw [uuidOfText, Uuid.read?_text]

/-- An instant is read from its text. -/
theorem instantOfText_text (t : Instant) : instantOfText t.text = .ok t := by
  rw [instantOfText, Instant.read_text]
  rfl

private theorem ofJson_sort (d : Document) : Document.ofJson d.json.sort = d := by
  rw [Json.sort_of_sorted _ d.sorted, Document.ofJson_json]

mutual

/-- A value of a faithful schema reads back from its document. -/
theorem Schema.decode_sort : (s : Schema) → s.faithful = true → (v : s.Value) →
    s.decode (s.encode v).sort = .ok v
  | .flag _, _, _ => rfl
  | .word _ _, _, n => Word.ofInt_val n
  | .int64, _, n => Int64Value.ofInt_value n
  | .text, _, _ => rfl
  | .uuid, _, u => uuidOfText_text u
  | .instant, _, t => instantOfText_text t
  | .document, _, d => congrArg Except.ok (ofJson_sort d)
  | .optional _, _, none => rfl
  | .optional inner, faithful, some v => by
    obtain ⟨solid, own⟩ := Schema.faithful_optional.mp faithful
    have there : (inner.encode v).sort.isNull = false := by
      rw [Json.isNull_sort, Schema.isNull_encode solid]
    rw [Schema.encode, Schema.decode_optional there, Schema.decode_sort inner own v]
    rfl
  | .list item, faithful, vs =>
    Schema.decode_items vs fun v _ ↦ Schema.decode_sort item faithful v
  | .record _ closed fields, faithful, vs =>
    (Fields.takes fields faithful vs).decode_record faithful closed
  | .choice name content others, faithful, .inl v => by
    obtain ⟨-, own, -⟩ := Cases.faithful_cons.mp (Schema.faithful_choice.mp faithful)
    obtain ⟨held, written, read⟩ := Content.decode_tagged content own name v
    rw [Schema.encode, written]
    exact Schema.decode_first read
  | .choice name content others, faithful, .inr v => by
    obtain ⟨fresh, -, rest⟩ := Cases.faithful_cons.mp (Schema.faithful_choice.mp faithful)
    obtain ⟨key, known, held, written, read⟩ := Cases.decode_tagged others rest v
    have other : key ≠ name := fun eq ↦ fresh (eq ▸ known)
    rw [Schema.encode, written]
    exact Schema.decode_other other (read _)

/-- Every member of a record is taken for the field that it was written for. -/
theorem Fields.takes : (fs : Fields) → fs.faithful = true → (vs : fs.Values) → fs.Takes vs
  | .nil, _, _ => fun _ h ↦ nomatch h
  | .cons name presence schema rest, faithful, (v, vs) => by
    obtain ⟨fresh, own, others⟩ := Fields.faithful_cons.mp faithful
    intro m hm met unmet
    rcases Fields.mem_encode_cons hm with rfl | hm
    · obtain ⟨before, after⟩ := Fields.given_cons_own presence fresh v vs unmet
      rw [before, after]
      exact Fields.decodeMember_own (Schema.decode_sort schema own v) _
    · have other : m.1 ≠ name := fun eq ↦ fresh (eq ▸ Fields.mem_names_of_mem_encode hm)
      rw [Fields.given_cons_other other]
      exact Fields.decodeMember_other other (Fields.takes rest others vs m hm met unmet) _

/-- What a case holds reads back from its document under any name. -/
theorem Content.decode_tagged : (c : Content) → c.faithful = true → (name : String) →
    (v : c.Value) → ∃ held, (c.encode name v).sort = Json.tagged name held ∧ c.decode held = .ok v
  | .nothing, _, _, _ => ⟨none, rfl, rfl⟩
  | .one schema, faithful, _, v =>
    ⟨some (schema.encode v).sort, rfl, Schema.decode_sort schema faithful v⟩
  | .fields _ fields, faithful, _, vs =>
    ⟨some (Json.obj (fields.encode vs)).sort, rfl,
      (Fields.takes fields faithful vs).decode_record faithful false⟩

/-- One of the cases reads back from its document by its name. -/
theorem Cases.decode_tagged : (cs : Cases) → cs.faithful = true → (v : cs.Value) →
    ∃ name ∈ cs.names, ∃ held, (cs.encode v).sort = Json.tagged name held ∧
      ∀ known, cs.decode known name held = .ok v
  | .cons name content rest, faithful, .inl v => by
    obtain ⟨-, own, -⟩ := Cases.faithful_cons.mp faithful
    obtain ⟨held, written, read⟩ := Content.decode_tagged content own name v
    refine ⟨name, List.mem_cons_self, held, written, fun known ↦ ?_⟩
    simp [Cases.decode, read, Except.map]
  | .cons name content rest, faithful, .inr v => by
    obtain ⟨fresh, -, others⟩ := Cases.faithful_cons.mp faithful
    obtain ⟨key, known, held, written, read⟩ := Cases.decode_tagged rest others v
    have other : key ≠ name := fun eq ↦ fresh (eq ▸ known)
    refine ⟨key, List.mem_cons_of_mem name known, held, written, fun known ↦ ?_⟩
    simp [Cases.decode, other, read, Except.map]

end

/-- Values with the same sorted JSON are equal, if their schema is faithful. -/
theorem Schema.eq_of_sort_encode {s : Schema} (faithful : s.faithful = true) {v w : s.Value}
    (h : (s.encode v).sort = (s.encode w).sort) : v = w := by
  have back := decode_sort s faithful v
  rw [h, decode_sort s faithful w] at back
  exact (Except.ok.inj back).symm

variable {α : Type} [Coded α]

/-- A value of a type with a faithful schema reads back from its document. -/
theorem ofJson_toDocument (faithful : (Coded.schema α).faithful = true) (a : α) :
    ofJson α (toDocument a).json = .ok a := by
  have read := Schema.decode_sort (Coded.schema α) faithful (Coded.toValue a)
  simp only [ofJson, toDocument, toJson, Document.ofJson, read]
  exact congrArg Except.ok (Coded.ofValue_toValue a)

/-- Values with the same document are equal, if their schema is faithful. -/
theorem toDocument_injective (faithful : (Coded.schema α).faithful = true) {a b : α}
    (h : toDocument a = toDocument b) : a = b := by
  have back := ofJson_toDocument faithful a
  rw [h, ofJson_toDocument faithful b] at back
  exact (Except.ok.inj back).symm

end VersionedStore
