import VersionedStore.Json.Basic

/-!
# The order of keys

A value is reordered where the members of some of its objects, at any depth, are put in another
order. Where no key is repeated, a dictionary is told by the pairs that it is made of, whatever
their order; so sorting takes reordered values to one.
-/

namespace VersionedStore

namespace Dictionary

universe u

variable {β : Type u}

private theorem insert_perm {k : String} (v : β) {ms : List (String × β)} (fresh : k ∉ keys ms) :
    (insert k v ms).Perm ((k, v) :: ms) := by
  induction ms with
  | nil => exact .refl _
  | cons m ms ih =>
    obtain ⟨l, w⟩ := m
    obtain ⟨other, rest⟩ : k ≠ l ∧ k ∉ keys ms := by simpa [keys] using fresh
    simp only [insert]
    split
    · exact .refl _
    · split
      · exact ((ih rest).cons _).trans (.swap _ _ _)
      · next h₁ h₂ =>
        exact absurd (String.le_antisymm (String.not_lt.mp h₂) (String.not_lt.mp h₁)) other

private theorem foldl_insert_perm (ms d : List (String × β)) (distinct : (keys (ms ++ d)).Nodup) :
    (ms.foldl (fun d m ↦ insert m.1 m.2 d) d).Perm (ms ++ d) := by
  induction ms generalizing d with
  | nil => exact .refl _
  | cons m ms ih =>
    -- The pair that is inserted stands among the others in another place.
    have moved : (ms ++ m :: d).Perm (m :: ms ++ d) := List.perm_middle
    have fresh : m.1 ∉ keys d := by
      have first := (List.nodup_cons.mp distinct).1
      exact fun h ↦ first (by simp_all [keys])
    have added : (ms ++ insert m.1 m.2 d).Perm (ms ++ m :: d) :=
      (insert_perm m.2 fresh).append_left ms
    have rest := ih (insert m.1 m.2 d) (((added.trans moved).map Prod.fst).nodup_iff.mpr distinct)
    exact rest.trans (added.trans moved)

/-- A dictionary of pairs with distinct keys has these pairs. -/
theorem ofPairs_perm {ms : List (String × β)} (distinct : (keys ms).Nodup) :
    (ofPairs ms).Perm ms := by
  have pairs := foldl_insert_perm ms [] (by rwa [List.append_nil])
  rwa [List.append_nil] at pairs

/-- Dictionaries with the same pairs are equal. -/
theorem eq_of_perm {ms ns : List (String × β)} (hms : Ascending ms) (hns : Ascending ns)
    (pairs : ms.Perm ns) : ms = ns := by
  have order {ms : List (String × β)} (h : Ascending ms) : ms.Pairwise fun m n ↦ m.1 < n.1 :=
    List.pairwise_map.mp h
  refine List.Perm.eq_of_pairwise ?_ (order hms) (order hns) pairs
  exact fun m n _ _ below above ↦ absurd above (String.lt_asymm below)

/-- Dictionaries in which the same is found under every key are equal. -/
theorem eq_of_get? {ms ns : List (String × β)} (hms : Ascending ms) (hns : Ascending ns)
    (same : ∀ k, get? k ms = get? k ns) : ms = ns := by
  have distinct {ms : List (String × β)} (h : Ascending ms) : ms.Nodup :=
    List.Pairwise.of_map Prod.fst (fun _ _ other eq ↦ other (congrArg Prod.fst eq))
      (nodup_keys_of_ascending h)
  have among {ms : List (String × β)} (h : Ascending ms) (m : String × β) :
      m ∈ ms ↔ get? m.1 ms = some m.2 :=
    ⟨get?_of_mem (nodup_keys_of_ascending h), mem_of_get?⟩
  refine eq_of_perm hms hns ((List.perm_ext_iff_of_nodup (distinct hms) (distinct hns)).mpr ?_)
  intro m
  rw [among hms, among hns, same]

private theorem ofPairs_congr {ms ns : List (String × β)} (distinct : (keys ms).Nodup)
    (pairs : ms.Perm ns) : ofPairs ms = ofPairs ns := by
  have distinct' : (keys ns).Nodup := (pairs.map Prod.fst).nodup_iff.mp distinct
  exact eq_of_perm (ascending_ofPairs ms) (ascending_ofPairs ns)
    ((ofPairs_perm distinct).trans (pairs.trans (ofPairs_perm distinct').symm))

end Dictionary

namespace Json

/-- Where no key is repeated, every member is found sorted under its key. -/
theorem get?_sortMembers {ms : List (String × Json)} (distinct : (Dictionary.keys ms).Nodup)
    {k : String} {v : Json} (h : (k, v) ∈ ms) :
    Dictionary.get? k (Dictionary.ofPairs (sortMembers ms)) = some v.sort := by
  apply Dictionary.get?_of_mem
    (Dictionary.nodup_keys_of_ascending (Dictionary.ascending_ofPairs _))
  rw [← keys_sortMembers] at distinct
  rw [(Dictionary.ofPairs_perm distinct).mem_iff, sortMembers_eq_map]
  exact List.mem_map.mpr ⟨_, h, rfl⟩

/-- The members of objects in a value are put in another order. -/
inductive Reordered : Json → Json → Prop
  | refl (v : Json) : Reordered v v
  | trans {u v w : Json} (first : Reordered u v) (then' : Reordered v w) : Reordered u w
  | item (front back : List Json) {v w : Json} (inside : Reordered v w) :
      Reordered (.arr (front ++ v :: back)) (.arr (front ++ w :: back))
  | member (front back : List (String × Json)) (key : String) {v w : Json}
      (inside : Reordered v w) :
      Reordered (.obj (front ++ (key, v) :: back)) (.obj (front ++ (key, w) :: back))
  | members {ms ns : List (String × Json)} (distinct : (Dictionary.keys ms).Nodup)
      (moved : ms.Perm ns) : Reordered (.obj ms) (.obj ns)

/-- Sorting takes reordered values to one. -/
theorem Reordered.sort_eq {v w : Json} (h : Reordered v w) : v.sort = w.sort := by
  induction h with
  | refl => rfl
  | trans _ _ first second => exact first.trans second
  | item front back _ inside =>
    rw [sort, sort, sortItems_eq_map, sortItems_eq_map, List.map_append, List.map_append,
      List.map_cons, List.map_cons, inside]
  | member front back key _ inside =>
    rw [sort, sort, sortMembers_eq_map, sortMembers_eq_map, List.map_append, List.map_append,
      List.map_cons, List.map_cons, inside]
  | @members ms ns distinct moved =>
    have distinct' : (Dictionary.keys (sortMembers ms)).Nodup := by rwa [keys_sortMembers]
    have moved' : (sortMembers ms).Perm (sortMembers ns) := by
      rw [sortMembers_eq_map, sortMembers_eq_map]
      exact moved.map _
    rw [sort, sort, Dictionary.ofPairs_congr distinct' moved']

/-- A document is that of its value with the members of objects in another order. -/
theorem Reordered.ofJson_eq {d : Document} {v : Json} (h : Reordered d.json v) :
    Document.ofJson v = d := by
  apply Document.ext
  exact h.sort_eq.symm.trans (sort_of_sorted d.json d.sorted)

end Json

end VersionedStore
