import VersionedStore.Proofs.Json.Order
import VersionedStore.Proofs.Json.Text
import VersionedStore.Proofs.Schema.Document

/-!
# Values up to the sign of zeros

Comparing JSON takes the two zeros among the doubles for one. `unsign` makes every zero positive, in
JSON and in the values of a schema, so that values compare as the same exactly when they are equal
once unsigned. Unsigning goes with writing and sorting.
-/

namespace VersionedStore

/-- The double itself, but for a zero the positive one. -/
def Double.unsign (x : Double) : Double := if x.mantissa = 0 then zero false else x

/-- Doubles compare as equal exactly when they are equal once unsigned. -/
theorem Double.same_iff {x y : Double} : x.same y = true ↔ x.unsign = y.unsign := by
  unfold unsign
  by_cases hx : x.mantissa = 0
  · by_cases hy : y.mantissa = 0
    · simp [same, hx, hy]
    · rw [if_pos hx, if_neg hy]
      refine iff_of_false (fun h ↦ hy ?_) fun h ↦ hy ?_
      · simp only [same, hx, beq_iff_eq, hy, Bool.or_eq_true, Bool.and_eq_true, and_false,
          or_false] at h
        rw [← h, hx]
      · rw [← h]
        rfl
  · rw [if_neg hx]
    refine ⟨fun h ↦ ?_, fun h ↦ ?_⟩
    · have eq := eq_of_same h hx
      rw [← eq, if_neg hx]
    · split at h
      · exact absurd (congrArg Double.mantissa h) hx
      · rw [h]
        exact same_self y

namespace Json

mutual

/-- The value with every zero among its doubles made positive. -/
def unsign : Json → Json
  | .float x => .float x.unsign
  | .arr items => .arr (unsignItems items)
  | .obj members => .obj (unsignMembers members)
  | v => v

/-- The items, each unsigned. -/
def unsignItems : List Json → List Json
  | [] => []
  | v :: rest => unsign v :: unsignItems rest

/-- The members, each value unsigned. -/
def unsignMembers : List (String × Json) → List (String × Json)
  | [] => []
  | (k, v) :: rest => (k, unsign v) :: unsignMembers rest

end

private theorem unsignItems_eq_map (vs : List Json) : unsignItems vs = vs.map unsign := by
  induction vs with
  | nil => rfl
  | cons v vs ih => rw [unsignItems, ih, List.map_cons]

/-- The values of members are unsigned one by one, under their keys. -/
theorem unsignMembers_eq_map (ms : List (String × Json)) :
    unsignMembers ms = ms.map fun m ↦ (m.1, m.2.unsign) := by
  induction ms with
  | nil => rfl
  | cons m ms ih => rw [unsignMembers, ih, List.map_cons]

private theorem isNull_unsign (v : Json) : v.unsign.isNull = v.isNull := by
  cases v <;> rfl

mutual

/-- Values compare as the same exactly when they are equal once unsigned. -/
theorem same_iff : (v w : Json) → v.same w = true ↔ v.unsign = w.unsign
  | .null, w => by cases w <;> simp [same, unsign]
  | .bool _, w => by cases w <;> simp [same, unsign]
  | .int _, w => by cases w <;> simp [same, unsign]
  | .str _, w => by cases w <;> simp [same, unsign]
  | .float x, w => by cases w <;> simp [same, unsign, Double.same_iff]
  | .arr vs, w => by
    cases w with
    | arr ws => simp [same, unsign, sameItems_iff vs ws]
    | _ => simp [same, unsign]
  | .obj ms, w => by
    cases w with
    | obj ns => simp [same, unsign, sameMembers_iff ms ns]
    | _ => simp [same, unsign]

/-- Items compare as the same exactly when they are equal once unsigned. -/
theorem sameItems_iff : (vs ws : List Json) →
    sameItems vs ws = true ↔ unsignItems vs = unsignItems ws
  | [], ws => by cases ws <;> simp [sameItems, unsignItems]
  | v :: vs, [] => by simp [sameItems, unsignItems]
  | v :: vs, w :: ws => by simp [sameItems, unsignItems, same_iff v w, sameItems_iff vs ws]

/-- Members compare as the same exactly when they are equal once unsigned. -/
theorem sameMembers_iff : (ms ns : List (String × Json)) →
    sameMembers ms ns = true ↔ unsignMembers ms = unsignMembers ns
  | [], ns => by cases ns <;> simp [sameMembers, unsignMembers]
  | m :: ms, [] => by simp [sameMembers, unsignMembers]
  | (k, v) :: ms, (l, w) :: ns => by
    simp [sameMembers, unsignMembers, same_iff v w, sameMembers_iff ms ns, and_assoc]

end

mutual

/-- Unsigning and sorting go in either order. -/
theorem unsign_sort : (v : Json) → v.sort.unsign = v.unsign.sort
  | .null | .bool _ | .int _ | .float _ | .str _ => rfl
  | .arr items => congrArg Json.arr (unsignItems_sortItems items)
  | .obj members => by
    simp only [sort, unsign]
    rw [unsignMembers_eq_map, Dictionary.map_ofPairs, ← unsignMembers_eq_map,
      unsignMembers_sortMembers members]

/-- Unsigning and sorting items go in either order. -/
theorem unsignItems_sortItems : (vs : List Json) →
    unsignItems (sortItems vs) = sortItems (unsignItems vs)
  | [] => rfl
  | v :: vs => by
    rw [sortItems, unsignItems, unsign_sort v, unsignItems_sortItems vs, unsignItems, sortItems]

/-- Unsigning and sorting the values of members go in either order. -/
theorem unsignMembers_sortMembers : (ms : List (String × Json)) →
    unsignMembers (sortMembers ms) = sortMembers (unsignMembers ms)
  | [] => rfl
  | (k, v) :: ms => by
    rw [sortMembers, unsignMembers, unsign_sort v, unsignMembers_sortMembers ms, unsignMembers,
      sortMembers]

end

mutual

/-- There is no zero to unsign in a plain value. -/
theorem unsign_of_isPlain : (v : Json) → v.isPlain = true → v.unsign = v
  | .null, _ | .bool _, _ | .int _, _ | .str _, _ => rfl
  | .arr items, h => congrArg Json.arr (unsignItems_of_arePlainItems items h)
  | .obj members, h => congrArg Json.obj (unsignMembers_of_arePlainMembers members h)

/-- There is no zero to unsign in plain items. -/
theorem unsignItems_of_arePlainItems : (vs : List Json) → arePlainItems vs = true →
    unsignItems vs = vs
  | [], _ => rfl
  | v :: vs, h => by
    rw [arePlainItems, Bool.and_eq_true] at h
    rw [unsignItems, unsign_of_isPlain v h.1, unsignItems_of_arePlainItems vs h.2]

/-- There is no zero to unsign in plain members. -/
theorem unsignMembers_of_arePlainMembers : (ms : List (String × Json)) →
    arePlainMembers ms = true → unsignMembers ms = ms
  | [], _ => rfl
  | (k, v) :: ms, h => by
    rw [arePlainMembers, Bool.and_eq_true] at h
    rw [unsignMembers, unsign_of_isPlain v h.1, unsignMembers_of_arePlainMembers ms h.2]

end

/-- Members may be left out before or after unsigning. -/
theorem unsign_without (ks : List String) (v : Json) :
    (v.without ks).unsign = v.unsign.without ks := by
  cases v with
  | obj members =>
    show Json.obj (unsignMembers (Dictionary.without ks members)) =
      .obj (Dictionary.without ks (unsignMembers members))
    rw [unsignMembers_eq_map, unsignMembers_eq_map, Dictionary.map_without]
  | _ => rfl

/-- What is found under a key is unsigned with the value. -/
theorem get?_unsign (k : String) (v : Json) : v.unsign.get? k = (v.get? k).map unsign := by
  cases v with
  | obj ms =>
    show Dictionary.get? k (unsignMembers ms) = (Dictionary.get? k ms).map unsign
    rw [unsignMembers_eq_map, Dictionary.get?, Dictionary.get?, List.find?_map, Option.map_map,
      Option.map_map]
    rfl
  | _ => rfl

/-- What is the same stays so when members are left out. -/
theorem same_without (ks : List String) {v w : Json} (h : v.same w = true) :
    (v.without ks).same (w.without ks) = true := by
  rw [same_iff] at h ⊢
  rw [unsign_without, unsign_without, h]

/-- Objects in order are the same when they are apart from one key and the same is found under
it. -/
theorem same_of_without {ms ns : List (String × Json)} (hms : Dictionary.Ascending ms)
    (hns : Dictionary.Ascending ns) {k : String}
    (rest : ((obj ms).without [k]).same ((obj ns).without [k]) = true)
    (member : ((obj ms).get? k).map unsign = ((obj ns).get? k).map unsign) :
    (obj ms).same (obj ns) = true := by
  have order {ms : List (String × Json)} (h : Dictionary.Ascending ms) :
      Dictionary.Ascending (unsignMembers ms) := by
    rw [unsignMembers_eq_map, Dictionary.Ascending, Dictionary.keys, List.map_map]
    exact h
  rw [same_iff, unsign_without, unsign_without] at rest
  rw [← get?_unsign, ← get?_unsign] at member
  rw [same_iff]
  refine congrArg obj (Dictionary.eq_of_get? (order hms) (order hns) fun l ↦ ?_)
  by_cases own : l = k
  · rw [own]
    exact member
  · have stays : l ∉ [k] := fun h ↦ own (List.mem_singleton.mp h)
    rw [← Dictionary.get?_without stays, ← Dictionary.get?_without stays (unsignMembers ns)]
    exact congrArg (Dictionary.get? l) (obj.inj rest)

end Json

/-- The document with every zero among its doubles made positive. -/
def Document.unsign (d : Document) : Document where
  json := d.json.unsign
  sorted := by
    rw [← Json.sort_of_sorted _ d.sorted, Json.unsign_sort]
    exact Json.sorted_sort _

mutual

/-- The value with every zero in its documents made positive. -/
def Schema.unsign : (s : Schema) → s.Value → s.Value
  | .flag _, v => v
  | .word _ _, v => v
  | .int64, v => v
  | .text, v => v
  | .uuid, v => v
  | .instant, v => v
  | .document, d => Document.unsign d
  | .optional inner, v => Option.map inner.unsign v
  | .list item, vs => List.map item.unsign vs
  | .record _ _ fields, vs => fields.unsign vs
  | .choice _ content _, .inl v => .inl (content.unsign v)
  | .choice _ _ others, .inr v => .inr (others.unsign v)

/-- The value of each field, unsigned. -/
def Fields.unsign : (fs : Fields) → fs.Values → fs.Values
  | .nil, vs => vs
  | .cons _ _ schema rest, (v, vs) => (schema.unsign v, rest.unsign vs)

/-- What a case holds, unsigned. -/
def Content.unsign : (c : Content) → c.Value → c.Value
  | .nothing, v => v
  | .one schema, v => schema.unsign v
  | .fields _ fields, vs => fields.unsign vs

/-- What one of the cases holds, unsigned. -/
def Cases.unsign : (cs : Cases) → cs.Value → cs.Value
  | .cons _ content _, .inl v => .inl (content.unsign v)
  | .cons _ _ rest, .inr v => .inr (rest.unsign v)

end

private theorem unsign_items {item : Schema} (vs : List item.Value)
    (back : ∀ v ∈ vs, (item.encode v).unsign = item.encode (item.unsign v)) :
    Json.unsignItems (vs.map item.encode) = (vs.map item.unsign).map item.encode := by
  rw [Json.unsignItems_eq_map, List.map_map, List.map_map]
  exact List.map_congr_left back

mutual

/-- Unsigning goes with writing. -/
theorem Schema.unsign_encode : (s : Schema) → (v : s.Value) →
    (s.encode v).unsign = s.encode (s.unsign v)
  | .flag _, _ | .word _ _, _ | .int64, _ | .text, _ | .uuid, _ | .instant, _ | .document, _ => rfl
  | .optional _, none => rfl
  | .optional inner, some v => Schema.unsign_encode inner v
  | .list item, vs =>
    congrArg Json.arr (unsign_items vs fun v _ ↦ Schema.unsign_encode item v)
  | .record _ _ fields, vs => congrArg Json.obj (Fields.unsign_encode fields vs)
  | .choice name content _, .inl v => Content.unsign_encode content name v
  | .choice _ _ others, .inr v => Cases.unsign_encode others v

/-- Unsigning goes with writing the members of a record. -/
theorem Fields.unsign_encode : (fs : Fields) → (vs : fs.Values) →
    Json.unsignMembers (fs.encode vs) = fs.encode (fs.unsign vs)
  | .nil, _ => rfl
  | .cons name presence schema rest, (v, vs) => by
    have member := Schema.unsign_encode schema v
    have others := Fields.unsign_encode rest vs
    rw [Fields.unsign, Fields.encode, Fields.encode, ← member, Json.isNull_unsign]
    split
    · exact others
    · rw [Json.unsignMembers, others]

/-- Unsigning goes with writing a case. -/
theorem Content.unsign_encode : (c : Content) → (name : String) → (v : c.Value) →
    (c.encode name v).unsign = c.encode name (c.unsign v)
  | .nothing, _, _ => rfl
  | .one schema, name, v =>
    congrArg (fun w ↦ Json.obj [(name, w)]) (Schema.unsign_encode schema v)
  | .fields _ fields, name, vs =>
    congrArg (fun ms ↦ Json.obj [(name, .obj ms)]) (Fields.unsign_encode fields vs)

/-- Unsigning goes with writing one of the cases. -/
theorem Cases.unsign_encode : (cs : Cases) → (v : cs.Value) →
    (cs.encode v).unsign = cs.encode (cs.unsign v)
  | .cons name content _, .inl v => Content.unsign_encode content name v
  | .cons _ _ rest, .inr v => Cases.unsign_encode rest v

end

/-- Documents of values compare as the same exactly when the values are equal once unsigned. -/
theorem Schema.same_toDocument_iff {s : Schema} (faithful : s.faithful = true) {v w : s.Value} :
    (s.toDocument v).same (s.toDocument w) = true ↔ s.unsign v = s.unsign w := by
  simp only [Document.same, toDocument, Document.ofJson]
  rw [Json.same_iff, Json.unsign_sort, Json.unsign_sort, unsign_encode, unsign_encode]
  exact ⟨fun h ↦ eq_of_sort_encode faithful h, fun h ↦ by rw [h]⟩

end VersionedStore
