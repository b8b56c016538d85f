import VersionedStore.Proofs.Json.Text
import VersionedStore.Proofs.Schema.Document

/-!
# The text of a value reads as the value

A value of a faithful schema comes back from its JSON text, if there are no doubles in it and it is
not nested too deep. The members of a record come in the order of its fields here, but are taken as
from a document: each for the field that it was written for.
-/

namespace VersionedStore

open Json (Closed Readable Taken closed_cons)

/-- A string is read from its text, and converted. -/
theorem readStringAs_chars {α : Type} {expected s : String}
    {convert : String → Except Json.Fault α} {v : α} (made : convert s = .ok v) (rest : List Char) :
    readStringAs expected convert ((Json.str s).chars ++ rest) = .ok (v, rest) :=
  (bind_of_ok (Json.readString_stringChars s rest) _).trans (bind_of_ok made _)

namespace Fields

private theorem readMember_own {name : String} {presence : Presence} {schema : Schema}
    {rest : Fields}
    {room : Nat} {cs left : List Char} {v : schema.Value}
    (read : schema.readFront room cs = .ok (v, left)) (p : rest.Partial) :
    (cons name presence schema rest).readMember room name (none, p) (':' :: cs) =
      .ok (some ((some v, p), left)) :=
  (if_pos rfl).trans (bind_of_ok read _)

private theorem readMember_other {name key : String} {presence : Presence} {schema : Schema}
    {rest : Fields} {room : Nat} {cs left : List Char} {p q : rest.Partial} (other : key ≠ name)
    (read : rest.readMember room key p cs = .ok (some (q, left))) (v : Option schema.Value) :
    (cons name presence schema rest).readMember room key (v, p) cs =
      .ok (some ((v, q), left)) :=
  (if_neg other).trans (congrArg (Except.map (Option.map fun p ↦ ((v, p.1), p.2))) read)

/-- A member is read for the field that it was written for. -/
def Reads (fs : Fields) (vs : fs.Values) : Prop :=
  ∀ m ∈ fs.encode vs, ∀ met : String → Bool, met m.1 = false →
    ∀ room, Readable room m.2 → ∀ rest, Closed rest →
      fs.readMember room m.1 (fs.given vs met) (':' :: (m.2.chars ++ rest)) =
        .ok (some (fs.given vs fun k ↦ k == m.1 || met k, rest))

/-- Members that are written for fields are read one by one. -/
theorem Reads.taken {fs : Fields} {vs : fs.Values} (reads : fs.Reads vs) {room : Nat}
    {ms : List (String × Json)} (written : ∀ m ∈ ms, m ∈ fs.encode vs)
    (readable : ∀ m ∈ ms, Readable room m.2) (distinct : (Dictionary.keys ms).Nodup)
    {met : String → Bool} (fresh : ∀ k ∈ Dictionary.keys ms, met k = false) :
    Taken (fs.readMember room) ms (fs.given vs met)
      (fs.given vs fun k ↦ (Dictionary.keys ms).contains k || met k) := by
  induction ms generalizing met with
  | nil => exact .nil _
  | cons m ms ih =>
    obtain ⟨first, others⟩ := unmet_cons distinct fresh
    rw [List.forall_mem_cons] at written readable
    have follows := ih written.2 readable.2 (List.nodup_cons.mp distinct).2 others
    rw [given_cons_keys] at follows
    exact .cons (reads m written.1 met first room readable.1) follows

/-- Fields are read from the text of their record, behind its opening brace. -/
theorem Reads.readRecord {fs : Fields} (faithful : fs.faithful = true) {vs : fs.Values}
    (reads : fs.Reads vs) (closed : Bool) {room : Nat}
    (readable : Readable room (.obj (fs.encode vs))) (rest : List Char) :
    (enter room fun room ↦ do
      let (p, rest) ← readMembers closed fs.names (fs.readMember room)
        ((Json.firstMemberChars (fs.encode vs) ++ rest).length + 1) true fs.unset
        (Json.firstMemberChars (fs.encode vs) ++ rest)
      let vs ← fs.settle p
      let rest ← endObject rest
      .ok (vs, rest)) = .ok (vs, rest) := by
  obtain ⟨inner, rfl, members⟩ := readable.members
  have unmet : ∀ k ∈ Dictionary.keys (fs.encode vs), (fun _ : String ↦ false) k = false :=
    fun _ _ ↦ rfl
  have taken := reads.taken (fun m hm ↦ hm) members (nodup_keys_encode faithful vs) unmet
  rw [given_none] at taken
  refine (bind_of_ok (taken.readMembers closed fs.names rest) _).trans ?_
  refine (bind_of_ok (settle_given faithful vs ?_) _).trans rfl
  intro m hm
  have key : m.1 ∈ Dictionary.keys (fs.encode vs) := List.mem_map_of_mem hm
  simp [key]

end Fields

/-- The text behind the name of a case: nothing, or a colon and what the case holds. -/
def heldChars : Option Json → List Char
  | none => []
  | some held => ':' :: held.chars

/-- A case is read from its text when what it holds is read behind its name. -/
theorem Schema.readFront_tagged {name key : String} {content : Content} {others : Cases}
    {held : Option Json} {v : content.Value ⊕ others.Value}
    (pick : ∀ room, (∀ w ∈ held, Readable room w) → ∀ rest, Closed rest →
      (if key = name then
        (content.readFront held.isNone room (heldChars held ++ rest)).map fun p ↦ (.inl p.1, p.2)
      else (others.readFront (name :: others.names) key held.isNone room
        (heldChars held ++ rest)).map fun p ↦ (.inr p.1, p.2)) = .ok (v, rest))
    {room : Nat} (readable : Readable room (Json.tagged key held)) {rest : List Char}
    (closed : Closed rest) :
    (Schema.choice name content others).readFront room ((Json.tagged key held).chars ++ rest) =
      .ok (v, rest) := by
  cases held with
  | none =>
    exact (bind_of_ok (Json.readString_stringChars key rest) _).trans
      (pick room (fun _ h ↦ nomatch h) rest closed)
  | some w =>
    obtain ⟨inner, rfl, members⟩ := readable.members
    have brace : Closed ('\x7d' :: rest) := closed_cons.mpr (by decide)
    have shape : (Json.tagged key (some w)).chars ++ rest =
        '\x7b' :: ((Json.str key).chars ++ (':' :: w.chars ++ '\x7d' :: rest)) := by
      simp [Json.tagged, Json.chars, Json.memberChars]
    rw [shape]
    have front : readStringAs "variant identifier" .ok
        ((Json.str key).chars ++ (':' :: w.chars ++ '\x7d' :: rest)) =
          .ok (key, ':' :: w.chars ++ '\x7d' :: rest) := readStringAs_chars rfl _
    refine (bind_of_ok front _).trans ?_
    have inside : ∀ u ∈ some w, Readable (inner + 1) u := by
      rintro _ ⟨⟩
      exact members (key, w) List.mem_cons_self
    exact (bind_of_ok (pick (inner + 1) inside _ brace) _).trans rfl

private theorem Schema.readFront_flag (initial : Bool) (b : Bool) (room : Nat) (rest : List Char) :
    (Schema.flag initial).readFront room (((Schema.flag initial).encode b).chars ++ rest) =
      .ok (b, rest) := by
  cases b <;> rfl

private theorem fits_of_readable {room : Nat} {n : Int} (readable : Readable room (.int n)) :
    Json.Fits n :=
  of_decide_eq_true (readable.plain : decide (Json.Fits n) = true)

private theorem Schema.readFront_document {d : Document} {room : Nat}
    (readable : Readable room d.json)
    {rest : List Char} (closed : Closed rest) :
    Schema.document.readFront room (d.json.chars ++ rest) = .ok (d, rest) := by
  rw [Schema.readFront, Json.readJson_chars readable closed]
  exact congrArg (fun d ↦ Except.ok (d, rest)) (Document.ofJson_json d)

private theorem Schema.readFront_items {item : Schema} {vs : List item.Value} {room : Nat}
    (readable : Readable room (.arr (vs.map item.encode)))
    (back : ∀ v ∈ vs, ∀ room, Readable room (item.encode v) → ∀ rest, Closed rest →
      item.readFront room ((item.encode v).chars ++ rest) = .ok (v, rest)) (rest : List Char) :
    (Schema.list item).readFront room ((Json.arr (vs.map item.encode)).chars ++ rest) =
      .ok (vs, rest) := by
  obtain ⟨inner, rfl, items⟩ := readable.items
  have reads : Json.ReadsItems (item.readFront (inner + 1)) item.encode vs := fun v hv ↦
    have own := items _ (List.mem_map_of_mem hv)
    ⟨own.plain, back v hv (inner + 1) own⟩
  rw [Json.chars_arr]
  exact (bind_of_ok (Json.readItems_firstItemChars reads rest) _).trans rfl

private theorem ne_null_of_isNull {v : Json} (solid : v.isNull = false) : v ≠ .null := by
  rintro rfl
  cases solid

private theorem Schema.readFront_optional {inner : Schema} {room : Nat} {v : Json}
    (plain : v.isPlain = true) (solid : v.isNull = false) (rest : List Char) :
    (Schema.optional inner).readFront room (v.chars ++ rest) =
      (inner.readFront room (v.chars ++ rest)).map fun p ↦ (some p.1, p.2) := by
  obtain ⟨c, cs, shape, -, letter⟩ := Json.chars_opening plain
  rw [Schema.readFront, Json.skipGap_chars plain, shape]
  split
  · next eq => exact absurd (List.cons.inj eq).1 (letter (ne_null_of_isNull solid))
  · rfl

mutual

/-- A value of a faithful schema reads back from its text. -/
theorem Schema.readFront_chars : (s : Schema) → s.faithful = true → (v : s.Value) →
    (room : Nat) → Readable room (s.encode v) → (rest : List Char) → Closed rest →
    s.readFront room ((s.encode v).chars ++ rest) = .ok (v, rest)
  | .flag initial, _, b, room, _, rest, _ => Schema.readFront_flag initial b room rest
  | .word _ _, _, n, room, readable, rest, closed => by
    rw [Schema.readFront, Json.skipGap_chars readable.plain]
    exact Json.readNumberAs_chars (fits_of_readable readable) (Word.ofInt_val n) closed
  | .int64, _, n, room, readable, rest, closed => by
    rw [Schema.readFront, Json.skipGap_chars readable.plain]
    exact Json.readNumberAs_chars (fits_of_readable readable) (Int64Value.ofInt_value n) closed
  | .text, _, s, _, _, rest, _ =>
    have made : (Except.ok s : Except Json.Fault String) = .ok s := rfl
    readStringAs_chars made rest
  | .uuid, _, u, _, _, rest, _ => readStringAs_chars (uuidOfText_text u) rest
  | .instant, _, t, _, _, rest, _ => readStringAs_chars (instantOfText_text t) rest
  | .document, _, _, _, readable, _, closed => Schema.readFront_document readable closed
  | .optional _, _, none, _, _, _, _ => rfl
  | .optional inner, faithful, some v, room, readable, rest, closed => by
    obtain ⟨solid, own⟩ := Schema.faithful_optional.mp faithful
    have plain : (inner.encode v).isPlain = true := readable.plain
    refine (Schema.readFront_optional plain (Schema.isNull_encode solid v) rest).trans ?_
    rw [Schema.readFront_chars inner own v room readable rest closed]
    rfl
  | .list item, faithful, _, _, readable, rest, _ =>
    Schema.readFront_items readable (fun v _ ↦ Schema.readFront_chars item faithful v) rest
  | .record _ closed fields, faithful, vs, room, readable, rest, _ => by
    rw [Schema.encode, Json.chars_obj]
    exact (Fields.reads fields faithful vs).readRecord faithful closed readable rest
  | .choice name content others, faithful, .inl v, room, readable, rest, closed => by
    obtain ⟨-, own, -⟩ := Cases.faithful_cons.mp (Schema.faithful_choice.mp faithful)
    obtain ⟨held, written, read⟩ := Content.readFront_tagged content own name v
    rw [Schema.encode, written] at readable ⊢
    refine Schema.readFront_tagged (fun room inside rest closed ↦ ?_) readable closed
    rw [if_pos rfl, read room inside rest closed]
    rfl
  | .choice name content others, faithful, .inr v, room, readable, rest, closed => by
    obtain ⟨fresh, -, rests⟩ := Cases.faithful_cons.mp (Schema.faithful_choice.mp faithful)
    obtain ⟨key, known, held, written, read⟩ := Cases.readFront_tagged others rests v
    have other : key ≠ name := fun eq ↦ fresh (eq ▸ known)
    rw [Schema.encode, written] at readable ⊢
    refine Schema.readFront_tagged (fun room inside rest closed ↦ ?_) readable closed
    rw [if_neg other, read _ room inside rest closed]
    rfl

/-- Every member of a record is read for the field that it was written for. -/
theorem Fields.reads : (fs : Fields) → fs.faithful = true → (vs : fs.Values) → fs.Reads vs
  | .nil, _, _ => fun _ h ↦ nomatch h
  | .cons name presence schema rest, faithful, (v, vs) => by
    obtain ⟨fresh, own, others⟩ := Fields.faithful_cons.mp faithful
    intro m hm met unmet room readable left closed
    rcases Fields.mem_encode_cons hm with rfl | hm
    · obtain ⟨before, after⟩ := Fields.given_cons_own presence fresh v vs unmet
      rw [before, after]
      exact Fields.readMember_own
        (Schema.readFront_chars schema own v room readable left closed) _
    · have other : m.1 ≠ name := fun eq ↦ fresh (eq ▸ Fields.mem_names_of_mem_encode hm)
      rw [Fields.given_cons_other other]
      exact Fields.readMember_other other
        (Fields.reads rest others vs m hm met unmet room readable left closed) _

/-- What a case holds is read behind its name. -/
theorem Content.readFront_tagged : (c : Content) → c.faithful = true → (name : String) →
    (v : c.Value) → ∃ held, c.encode name v = Json.tagged name held ∧
      ∀ room, (∀ w ∈ held, Readable room w) → ∀ rest, Closed rest →
        c.readFront held.isNone room (heldChars held ++ rest) = .ok (v, rest)
  | .nothing, _, _, _ => ⟨none, rfl, fun _ _ _ _ ↦ rfl⟩
  | .one schema, faithful, _, v => ⟨some (schema.encode v), rfl, fun room inside rest closed ↦
      Schema.readFront_chars schema faithful v room (inside _ rfl) rest closed⟩
  | .fields _ fields, faithful, _, vs => ⟨some (.obj (fields.encode vs)), rfl,
      fun room inside rest _ ↦ by
        rw [heldChars, Json.chars_obj]
        exact (Fields.reads fields faithful vs).readRecord faithful false (inside _ rfl) rest⟩

/-- One of the cases is read behind its name. -/
theorem Cases.readFront_tagged : (cs : Cases) → cs.faithful = true → (v : cs.Value) →
    ∃ name ∈ cs.names, ∃ held, cs.encode v = Json.tagged name held ∧
      ∀ known room, (∀ w ∈ held, Readable room w) → ∀ rest, Closed rest →
        cs.readFront known name held.isNone room (heldChars held ++ rest) = .ok (v, rest)
  | .cons name content rest, faithful, .inl v => by
    obtain ⟨-, own, -⟩ := Cases.faithful_cons.mp faithful
    obtain ⟨held, written, read⟩ := Content.readFront_tagged content own name v
    refine ⟨name, List.mem_cons_self, held, written, fun known room inside left closed ↦ ?_⟩
    rw [Cases.readFront, if_pos rfl, read room inside left closed]
    rfl
  | .cons name content rest, faithful, .inr v => by
    obtain ⟨fresh, -, others⟩ := Cases.faithful_cons.mp faithful
    obtain ⟨key, known, held, written, read⟩ := Cases.readFront_tagged rest others v
    have other : key ≠ name := fun eq ↦ fresh (eq ▸ known)
    refine ⟨key, List.mem_cons_of_mem name known, held, written,
      fun known room inside left closed ↦ ?_⟩
    rw [Cases.readFront, if_neg other, read known room inside left closed]
    rfl

end

variable {α : Type} [Coded α]

/-- A value of a type with a faithful schema reads back from its JSON text. -/
theorem ofJsonText_jsonText (faithful : (Coded.schema α).faithful = true) {a : α}
    (readable : Readable depthLimit (toJson a)) : ofJsonText α (jsonText a) = .ok a := by
  have front := Schema.readFront_chars (Coded.schema α) faithful (Coded.toValue a) depthLimit
    readable [] Json.closed_nil
  rw [List.append_nil] at front
  have read : (Coded.schema α).read (jsonText a) = .ok (Coded.toValue a) := by
    rw [Schema.read, jsonText, Json.text, String.toList_ofList]
    exact (bind_of_ok front _).trans rfl
  rw [ofJsonText, read]
  exact congrArg Except.ok (Coded.ofValue_toValue a)

end VersionedStore
