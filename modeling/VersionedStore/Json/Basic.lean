import VersionedStore.Dictionary
import VersionedStore.Json.Double

/-!
# JSON values

A number is an integer or a double, and the two are never equal. Objects keep their members in a
list; `Sorted` says that the keys of every object ascend, and `sort` brings a value into that form.
-/

namespace VersionedStore

/-- A JSON value. -/
inductive Json where
  | null
  | bool (b : Bool)
  | int (n : Int)
  | float (x : Double)
  | str (s : String)
  | arr (items : List Json)
  | obj (members : List (String × Json))
  deriving Inhabited

namespace Json

mutual

/-- Equality of values is decided part by part. -/
def decEq : (a b : Json) → Decidable (a = b)
  | .null, .null => isTrue rfl
  | .bool a, .bool b => decidable_of_iff (a = b) (by simp)
  | .int a, .int b => decidable_of_iff (a = b) (by simp)
  | .float a, .float b => decidable_of_iff (a = b) (by simp)
  | .str a, .str b => decidable_of_iff (a = b) (by simp)
  | .arr a, .arr b => have := decEqItems a b; decidable_of_iff (a = b) (by simp)
  | .obj a, .obj b => have := decEqMembers a b; decidable_of_iff (a = b) (by simp)
  | .null, .bool _ | .null, .int _ | .null, .float _ | .null, .str _ | .null, .arr _
  | .null, .obj _ | .bool _, .null | .bool _, .int _ | .bool _, .float _ | .bool _, .str _
  | .bool _, .arr _ | .bool _, .obj _ | .int _, .null | .int _, .bool _ | .int _, .float _
  | .int _, .str _ | .int _, .arr _ | .int _, .obj _ | .float _, .null | .float _, .bool _
  | .float _, .int _ | .float _, .str _ | .float _, .arr _ | .float _, .obj _ | .str _, .null
  | .str _, .bool _ | .str _, .int _ | .str _, .float _ | .str _, .arr _ | .str _, .obj _
  | .arr _, .null | .arr _, .bool _ | .arr _, .int _ | .arr _, .float _ | .arr _, .str _
  | .arr _, .obj _ | .obj _, .null | .obj _, .bool _ | .obj _, .int _ | .obj _, .float _
  | .obj _, .str _ | .obj _, .arr _ => isFalse (by simp)

/-- Equality of item lists. -/
def decEqItems : (a b : List Json) → Decidable (a = b)
  | [], [] => isTrue rfl
  | [], _ :: _ | _ :: _, [] => isFalse (by simp)
  | x :: xs, y :: ys =>
    have := decEq x y
    have := decEqItems xs ys
    decidable_of_iff (x = y ∧ xs = ys) (by simp)

/-- Equality of member lists. -/
def decEqMembers : (a b : List (String × Json)) → Decidable (a = b)
  | [], [] => isTrue rfl
  | [], _ :: _ | _ :: _, [] => isFalse (by simp)
  | (k, x) :: xs, (l, y) :: ys =>
    have := decEq x y
    have := decEqMembers xs ys
    decidable_of_iff (k = l ∧ x = y ∧ xs = ys) (by simp [and_assoc])

end

instance : DecidableEq Json := decEq

/-- The value under a key of an object. -/
def get? (k : String) : Json → Option Json
  | .obj ms => Dictionary.get? k ms
  | _ => none

/-- The text of a string. -/
def asString? : Json → Option String
  | .str s => some s
  | _ => none

/-- An object without some of its members; another value stays as it is. -/
def without (ks : List String) : Json → Json
  | .obj ms => .obj (Dictionary.without ks ms)
  | v => v

mutual

/-- Are two values the same, where the two zeros among the doubles count as one? -/
def same : Json → Json → Bool
  | .null, .null => true
  | .bool a, .bool b => a == b
  | .int a, .int b => a == b
  | .float a, .float b => a.same b
  | .str a, .str b => a == b
  | .arr a, .arr b => sameItems a b
  | .obj a, .obj b => sameMembers a b
  | _, _ => false

/-- Are the items the same, one by one? -/
def sameItems : List Json → List Json → Bool
  | [], [] => true
  | x :: xs, y :: ys => same x y && sameItems xs ys
  | _, _ => false

/-- Are the members the same, one by one? -/
def sameMembers : List (String × Json) → List (String × Json) → Bool
  | [], [] => true
  | (k, x) :: xs, (l, y) :: ys => k == l && same x y && sameMembers xs ys
  | _, _ => false

end

mutual

/-- Do the keys of every object strictly ascend? -/
def Sorted : Json → Prop
  | .arr items => SortedItems items
  | .obj members => Dictionary.Ascending members ∧ SortedMembers members
  | _ => True

/-- Is every item sorted? -/
def SortedItems : List Json → Prop
  | [] => True
  | v :: rest => Sorted v ∧ SortedItems rest

/-- Is the value of every member sorted? -/
def SortedMembers : List (String × Json) → Prop
  | [] => True
  | (_, v) :: rest => Sorted v ∧ SortedMembers rest

end

mutual

/-- The value with the keys of every object in order; the last of repeated keys counts. -/
def sort : Json → Json
  | .arr items => .arr (sortItems items)
  | .obj members => .obj (Dictionary.ofPairs (sortMembers members))
  | v => v

/-- The items, each sorted. -/
def sortItems : List Json → List Json
  | [] => []
  | v :: rest => sort v :: sortItems rest

/-- The members in their order, each value sorted. -/
def sortMembers : List (String × Json) → List (String × Json)
  | [] => []
  | (k, v) :: rest => (k, sort v) :: sortMembers rest

end

/-- Items are sorted one by one. -/
theorem sortItems_eq_map (vs : List Json) : sortItems vs = vs.map sort := by
  induction vs with
  | nil => rfl
  | cons v vs ih => rw [sortItems, ih, List.map_cons]

/-- The values of members are sorted one by one, under their keys. -/
theorem sortMembers_eq_map (ms : List (String × Json)) :
    sortMembers ms = ms.map fun m ↦ (m.1, m.2.sort) := by
  induction ms with
  | nil => rfl
  | cons m ms ih => rw [sortMembers, ih, List.map_cons]

/-- Sorting the values of members leaves their keys alone. -/
theorem keys_sortMembers (ms : List (String × Json)) :
    Dictionary.keys (sortMembers ms) = Dictionary.keys ms := by
  rw [sortMembers_eq_map, Dictionary.keys, List.map_map]
  rfl

private theorem sortedMembers_insert {k : String} {v : Json} (hv : Sorted v)
    {ms : List (String × Json)} (h : SortedMembers ms) :
    SortedMembers (Dictionary.insert k v ms) := by
  induction ms with
  | nil => exact ⟨hv, trivial⟩
  | cons m ms ih =>
    obtain ⟨l, w⟩ := m
    simp only [Dictionary.insert]
    split
    · exact ⟨hv, h⟩
    · split
      · exact ⟨h.1, ih h.2⟩
      · exact ⟨hv, h.2⟩

private theorem sortedMembers_foldl (ms d : List (String × Json)) (hms : SortedMembers ms)
    (hd : SortedMembers d) :
    SortedMembers (ms.foldl (fun d m ↦ Dictionary.insert m.1 m.2 d) d) := by
  induction ms generalizing d with
  | nil => exact hd
  | cons m ms ih => exact ih _ hms.2 (sortedMembers_insert hms.1 hd)

mutual

/-- Sorting a value makes it sorted. -/
theorem sorted_sort : (v : Json) → v.sort.Sorted
  | .null | .bool _ | .int _ | .float _ | .str _ => trivial
  | .arr items => sortedItems_sortItems items
  | .obj members => ⟨Dictionary.ascending_ofPairs _,
      sortedMembers_foldl _ _ (sortedMembers_sortMembers members) trivial⟩

/-- Sorting items makes them sorted. -/
theorem sortedItems_sortItems : (vs : List Json) → SortedItems (sortItems vs)
  | [] => trivial
  | v :: rest => ⟨sorted_sort v, sortedItems_sortItems rest⟩

/-- Sorting the values of members makes them sorted. -/
theorem sortedMembers_sortMembers : (ms : List (String × Json)) → SortedMembers (sortMembers ms)
  | [] => trivial
  | (_, v) :: rest => ⟨sorted_sort v, sortedMembers_sortMembers rest⟩

end

mutual

/-- A sorted value is not changed by sorting. -/
theorem sort_of_sorted : (v : Json) → v.Sorted → v.sort = v
  | .null, _ | .bool _, _ | .int _, _ | .float _, _ | .str _, _ => rfl
  | .arr items, h => by rw [sort, sortItems_of_sorted items h]
  | .obj members, h => by
    rw [sort, sortMembers_of_sorted members h.2, Dictionary.ofPairs_of_ascending h.1]

/-- Sorted items are not changed by sorting. -/
theorem sortItems_of_sorted : (vs : List Json) → SortedItems vs → sortItems vs = vs
  | [], _ => rfl
  | v :: rest, h => by rw [sortItems, sort_of_sorted v h.1, sortItems_of_sorted rest h.2]

/-- Sorted members are not changed by sorting their values. -/
theorem sortMembers_of_sorted : (ms : List (String × Json)) → SortedMembers ms →
    sortMembers ms = ms
  | [], _ => rfl
  | (_, v) :: rest, h => by rw [sortMembers, sort_of_sorted v h.1, sortMembers_of_sorted rest h.2]

end

/-- Sorting twice is sorting once. -/
theorem sort_sort (v : Json) : v.sort.sort = v.sort := sort_of_sorted _ (sorted_sort v)

mutual

/-- A value is the same as itself. -/
theorem same_self : (v : Json) → v.same v = true
  | .null => rfl
  | .bool b => by simp [same]
  | .int n => by simp [same]
  | .float x => by simp [same, Double.same_self]
  | .str s => by simp [same]
  | .arr items => by simp [same, sameItems_self items]
  | .obj members => by simp [same, sameMembers_self members]

/-- Items are the same as themselves. -/
theorem sameItems_self : (vs : List Json) → sameItems vs vs = true
  | [] => rfl
  | v :: rest => by simp [sameItems, same_self v, sameItems_self rest]

/-- Members are the same as themselves. -/
theorem sameMembers_self : (ms : List (String × Json)) → sameMembers ms ms = true
  | [] => rfl
  | (_, v) :: rest => by simp [sameMembers, same_self v, sameMembers_self rest]

end

end Json

/-- A JSON value whose object keys are all in order: what reading JSON without a schema gives. -/
structure Document where
  json : Json
  sorted : json.Sorted

namespace Document

/-- The document of a value. -/
def ofJson (v : Json) : Document := ⟨v.sort, v.sorted_sort⟩

/-- The null document. -/
def null : Document := ⟨.null, trivial⟩

instance : Inhabited Document := ⟨null⟩

instance : DecidableEq Document := fun a b ↦
  decidable_of_iff (a.json = b.json) (by cases a; cases b; simp)

/-- Are two documents the same, where the two zeros among the doubles count as one? -/
def same (a b : Document) : Bool := a.json.same b.json

/-- Documents of one value are equal. -/
theorem ext {a b : Document} (h : a.json = b.json) : a = b := by
  cases a
  cases b
  cases h
  rfl

/-- The document of a document's value is the document. -/
theorem ofJson_json (d : Document) : ofJson d.json = d := ext (Json.sort_of_sorted _ d.sorted)

end Document

end VersionedStore
