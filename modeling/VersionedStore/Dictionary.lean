/-!
# Dictionaries in key order

A dictionary is a list of pairs whose keys strictly ascend. Inserting keeps the order and replaces
the value of a key that is already there, so reading pairs in any order gives one dictionary, in
which the last value of a repeated key counts.
-/

namespace VersionedStore.Dictionary

universe u

variable {β : Type u}

/-- The keys of a list of pairs. -/
def keys (ms : List (String × β)) : List String := ms.map Prod.fst

/-- Do the keys strictly ascend? -/
def Ascending (ms : List (String × β)) : Prop := (keys ms).Pairwise (· < ·)

/-- The dictionary with `v` under `k`. -/
def insert (k : String) (v : β) : List (String × β) → List (String × β)
  | [] => [(k, v)]
  | (l, w) :: rest =>
    if k < l then (k, v) :: (l, w) :: rest
    else if l < k then (l, w) :: insert k v rest
    else (k, v) :: rest

/-- The dictionary of a list of pairs; the last value of a key counts. -/
def ofPairs (ms : List (String × β)) : List (String × β) :=
  ms.foldl (fun d m ↦ insert m.1 m.2 d) []

/-- The value under a key. -/
def get? (k : String) (ms : List (String × β)) : Option β :=
  (ms.find? fun m ↦ m.1 == k).map Prod.snd

/-- The pairs whose key is none of these. -/
def without (ks : List String) (ms : List (String × β)) : List (String × β) :=
  ms.filter fun m ↦ !ks.contains m.1

/-- The empty dictionary is in order. -/
theorem ascending_nil : Ascending ([] : List (String × β)) := List.Pairwise.nil

/-- A dictionary is in order when its first key lies before the others and those are in order. -/
theorem ascending_cons {k : String} {v : β} {ms : List (String × β)} :
    Ascending ((k, v) :: ms) ↔ (∀ l ∈ keys ms, k < l) ∧ Ascending ms := by
  simp [Ascending, keys]

/-- The keys after an insertion are the old ones and the new one. -/
theorem mem_keys_insert {k l : String} {v : β} {ms : List (String × β)} :
    l ∈ keys (insert k v ms) ↔ l = k ∨ l ∈ keys ms := by
  induction ms with
  | nil => simp [insert, keys]
  | cons m ms ih =>
    obtain ⟨j, w⟩ := m
    simp only [insert]
    split
    · simp [keys]
    · split
      · simp only [keys, List.map_cons, List.mem_cons] at ih ⊢
        rw [ih]
        grind
      · next h₁ h₂ =>
        have : k = j := String.le_antisymm (String.not_lt.mp h₂) (String.not_lt.mp h₁)
        subst this
        simp [keys]

/-- What is there after an insertion is the new pair or was there before. -/
theorem mem_of_mem_insert {k : String} {v : β} {m : String × β} {ms : List (String × β)}
    (h : m ∈ insert k v ms) : m = (k, v) ∨ m ∈ ms := by
  induction ms with
  | nil => exact .inl (List.mem_singleton.mp h)
  | cons n ms ih =>
    obtain ⟨l, w⟩ := n
    simp only [insert] at h
    split at h
    · exact List.mem_cons.mp h
    · split at h
      · rcases List.mem_cons.mp h with rfl | h
        · exact .inr List.mem_cons_self
        · exact (ih h).imp_right (List.mem_cons_of_mem _)
      · exact (List.mem_cons.mp h).imp_right (List.mem_cons_of_mem _)

/-- What was inserted under a key is found there. -/
theorem get?_insert_self (k : String) (v : β) (ms : List (String × β)) :
    get? k (insert k v ms) = some v := by
  induction ms with
  | nil => simp [get?, insert]
  | cons m ms ih =>
    obtain ⟨l, w⟩ := m
    simp only [insert]
    split
    · simp [get?]
    · split
      · next lt =>
        have other : (l == k) = false := by
          apply beq_eq_false_iff_ne.mpr
          rintro rfl
          exact String.lt_irrefl l lt
        simpa [get?, List.find?_cons, other] using ih
      · simp [get?]

/-- Inserting under one key leaves what is under the others. -/
theorem get?_insert_ne {k l : String} (other : l ≠ k) (v : β) (ms : List (String × β)) :
    get? l (insert k v ms) = get? l ms := by
  have apart : (k == l) = false := beq_eq_false_iff_ne.mpr (Ne.symm other)
  induction ms with
  | nil => simp [get?, insert, apart]
  | cons m ms ih =>
    obtain ⟨j, w⟩ := m
    simp only [insert]
    split
    · simp [get?, apart]
    · split
      · simp only [get?, List.find?_cons] at ih ⊢
        split
        · rfl
        · exact ih
      · next h₁ h₂ =>
        obtain rfl : k = j := String.le_antisymm (String.not_lt.mp h₂) (String.not_lt.mp h₁)
        simp [get?, apart]

/-- Something is found exactly under the keys. -/
theorem isSome_get?_iff {k : String} {ms : List (String × β)} :
    (get? k ms).isSome = true ↔ k ∈ keys ms := by
  rw [get?, Option.isSome_map, List.find?_isSome]
  simp [keys]

/-- What is found under a key is there. -/
theorem mem_of_get? {k : String} {v : β} {ms : List (String × β)} (h : get? k ms = some v) :
    (k, v) ∈ ms := by
  obtain ⟨⟨l, w⟩, found, rfl⟩ := Option.map_eq_some_iff.mp h
  obtain rfl : l = k := by simpa using List.find?_some found
  exact List.mem_of_find?_eq_some found

/-- Where no key is repeated, what is there is found under its key. -/
theorem get?_of_mem {k : String} {v : β} {ms : List (String × β)} (distinct : (keys ms).Nodup)
    (h : (k, v) ∈ ms) : get? k ms = some v := by
  induction ms with
  | nil => cases h
  | cons m ms ih =>
    obtain ⟨fresh, rest⟩ := List.nodup_cons.mp distinct
    rcases List.mem_cons.mp h with rfl | h
    · simp [get?]
    · have other : (m.1 == k) = false := by
        apply beq_eq_false_iff_ne.mpr
        rintro rfl
        exact fresh (List.mem_map.mpr ⟨_, h, rfl⟩)
      simpa [get?, List.find?_cons, other] using ih rest h

/-- Inserting keeps the order. -/
theorem ascending_insert {k : String} {v : β} {ms : List (String × β)} (h : Ascending ms) :
    Ascending (insert k v ms) := by
  induction ms with
  | nil => simp [insert, Ascending, keys]
  | cons m ms ih =>
    obtain ⟨l, w⟩ := m
    rw [ascending_cons] at h
    simp only [insert]
    split
    · next lt =>
      rw [ascending_cons, ascending_cons]
      refine ⟨fun j hj ↦ ?_, h⟩
      rcases List.mem_cons.mp hj with rfl | hj
      · exact lt
      · exact String.lt_trans lt (h.1 j hj)
    · split
      · next lt =>
        rw [ascending_cons]
        refine ⟨fun j hj ↦ ?_, ih h.2⟩
        rcases mem_keys_insert.mp hj with rfl | hj
        · exact lt
        · exact h.1 j hj
      · next h₁ h₂ =>
        have : k = l := String.le_antisymm (String.not_lt.mp h₂) (String.not_lt.mp h₁)
        subst this
        exact ascending_cons.mpr h

/-- Inserting what is there already changes nothing. -/
theorem insert_of_get? {k : String} {v : β} {ms : List (String × β)} (order : Ascending ms)
    (h : get? k ms = some v) : insert k v ms = ms := by
  induction ms with
  | nil => cases h
  | cons m ms ih =>
    obtain ⟨l, w⟩ := m
    obtain ⟨before, rest⟩ := ascending_cons.mp order
    rcases List.mem_cons.mp (mem_of_get? h) with same | behind
    · cases same
      rw [insert, if_neg (String.lt_irrefl k), if_neg (String.lt_irrefl k)]
    · have lt : l < k := before k (List.mem_map_of_mem behind)
      have other : (l == k) = false := beq_eq_false_iff_ne.mpr (String.ne_of_lt lt)
      have h' : get? k ms = some v := by simpa [get?, List.find?_cons, other] using h
      rw [insert, if_neg (String.lt_asymm lt), if_pos lt, ih rest h']

private theorem ascending_foldl (ms d : List (String × β)) (h : Ascending d) :
    Ascending (ms.foldl (fun d m ↦ insert m.1 m.2 d) d) := by
  induction ms generalizing d with
  | nil => exact h
  | cons m ms ih => exact ih _ (ascending_insert h)

/-- The dictionary of a list of pairs is in order. -/
theorem ascending_ofPairs (ms : List (String × β)) : Ascending (ofPairs ms) :=
  ascending_foldl ms [] ascending_nil

private theorem mem_foldl_insert (ms d : List (String × β)) {m : String × β}
    (h : m ∈ ms.foldl (fun d m ↦ insert m.1 m.2 d) d) : m ∈ ms ∨ m ∈ d := by
  induction ms generalizing d with
  | nil => exact .inr h
  | cons n ms ih =>
    rcases ih _ h with h | h
    · exact .inl (List.mem_cons_of_mem n h)
    · rcases mem_of_mem_insert h with rfl | h
      · exact .inl List.mem_cons_self
      · exact .inr h

private theorem mem_keys_foldl_insert (ms d : List (String × β)) {k : String} :
    k ∈ keys (ms.foldl (fun d m ↦ insert m.1 m.2 d) d) ↔ k ∈ keys ms ∨ k ∈ keys d := by
  induction ms generalizing d with
  | nil => simp [keys]
  | cons n ms ih =>
    rw [List.foldl_cons, ih, mem_keys_insert]
    simp only [keys, List.map_cons, List.mem_cons]
    grind

/-- The pairs of a dictionary are among those that it was made of. -/
theorem mem_of_mem_ofPairs {m : String × β} {ms : List (String × β)} (h : m ∈ ofPairs ms) :
    m ∈ ms :=
  (mem_foldl_insert ms [] h).resolve_right List.not_mem_nil

/-- The keys of a dictionary are those of the pairs that it was made of. -/
theorem mem_keys_ofPairs {k : String} {ms : List (String × β)} :
    k ∈ keys (ofPairs ms) ↔ k ∈ keys ms := by
  rw [ofPairs, mem_keys_foldl_insert]
  simp [keys]

/-- Keys in ascending order are distinct. -/
theorem nodup_keys_of_ascending {ms : List (String × β)} (h : Ascending ms) : (keys ms).Nodup :=
  h.imp fun lt ↦ String.ne_of_lt lt

/-- A key past all others goes to the end. -/
theorem insert_past {k : String} {v : β} {ms : List (String × β)} (h : ∀ l ∈ keys ms, l < k) :
    insert k v ms = ms ++ [(k, v)] := by
  induction ms with
  | nil => rfl
  | cons m ms ih =>
    obtain ⟨l, w⟩ := m
    have lt : l < k := h l (by simp [keys])
    have rest : ∀ j ∈ keys ms, j < k := fun j hj ↦ h j (by simp_all [keys])
    simp [insert, lt, String.lt_asymm lt, ih rest]

private theorem foldl_insert_append (ms d : List (String × β)) (h : Ascending (d ++ ms)) :
    ms.foldl (fun d m ↦ insert m.1 m.2 d) d = d ++ ms := by
  induction ms generalizing d with
  | nil => simp
  | cons m ms ih =>
    have below : ∀ l ∈ keys d, l < m.1 := by
      intro l hl
      have := h
      simp only [Ascending, keys, List.map_append, List.pairwise_append] at this
      exact this.2.2 l hl m.1 (by simp)
    rw [List.foldl_cons, insert_past below, ih]
    · simp
    · simpa using h

/-- The pairs of a dictionary, in order, make the same dictionary. -/
theorem ofPairs_of_ascending {ms : List (String × β)} (h : Ascending ms) : ofPairs ms = ms :=
  foldl_insert_append ms [] h

/-- Taking keys out keeps the order. -/
theorem ascending_without {ks : List String} {ms : List (String × β)} (h : Ascending ms) :
    Ascending (without ks ms) := by
  induction ms with
  | nil => exact h
  | cons m ms ih =>
    obtain ⟨k, v⟩ := m
    rw [ascending_cons] at h
    simp only [without, List.filter_cons] at ih ⊢
    split
    · rw [ascending_cons]
      refine ⟨fun l hl ↦ h.1 l ?_, ih h.2⟩
      simp only [keys, List.mem_map, List.mem_filter] at hl ⊢
      grind
    · exact ih h.2

universe v

variable {γ : Type v}

/-- Changing the values commutes with inserting. -/
theorem map_insert (f : β → γ) (k : String) (v : β) (ms : List (String × β)) :
    (insert k v ms).map (fun m ↦ (m.1, f m.2)) = insert k (f v) (ms.map fun m ↦ (m.1, f m.2)) := by
  induction ms with
  | nil => rfl
  | cons m ms ih =>
    simp only [insert, List.map_cons]
    split
    · rfl
    · split
      · rw [List.map_cons, ih]
      · rfl

private theorem map_foldl_insert (f : β → γ) (ms d : List (String × β)) :
    (ms.foldl (fun d m ↦ insert m.1 m.2 d) d).map (fun m ↦ (m.1, f m.2)) =
      (ms.map fun m ↦ (m.1, f m.2)).foldl (fun d m ↦ insert m.1 m.2 d)
        (d.map fun m ↦ (m.1, f m.2)) := by
  induction ms generalizing d with
  | nil => rfl
  | cons m ms ih => rw [List.foldl_cons, ih, map_insert, List.map_cons, List.foldl_cons]

/-- Changing the values commutes with making a dictionary. -/
theorem map_ofPairs (f : β → γ) (ms : List (String × β)) :
    (ofPairs ms).map (fun m ↦ (m.1, f m.2)) = ofPairs (ms.map fun m ↦ (m.1, f m.2)) :=
  map_foldl_insert f ms []

/-- A pair is left out when its key is one of those. -/
theorem without_cons_of_mem {ks : List String} {k : String} (h : k ∈ ks) (v : β)
    (ms : List (String × β)) : without ks ((k, v) :: ms) = without ks ms := by
  simp [without, h]

/-- A pair stays when its key is none of those. -/
theorem without_cons_of_not_mem {ks : List String} {k : String} (h : k ∉ ks) (v : β)
    (ms : List (String × β)) : without ks ((k, v) :: ms) = (k, v) :: without ks ms := by
  simp [without, h]

/-- The keys that stay were there before. -/
theorem mem_keys_of_mem_without {ks : List String} {l : String} {ms : List (String × β)}
    (h : l ∈ keys (without ks ms)) : l ∈ keys ms := by
  obtain ⟨m, hm, rfl⟩ := List.mem_map.mp h
  exact List.mem_map_of_mem (List.mem_filter.mp hm).1

/-- An insertion under a key that is left out does not matter. -/
theorem without_insert_of_mem {ks : List String} {k : String} (h : k ∈ ks) (v : β)
    (ms : List (String × β)) : without ks (insert k v ms) = without ks ms := by
  induction ms with
  | nil => exact without_cons_of_mem h v []
  | cons m ms ih =>
    obtain ⟨l, w⟩ := m
    simp only [insert]
    split
    · exact without_cons_of_mem h v _
    · split
      · by_cases hl : l ∈ ks
        · rw [without_cons_of_mem hl, without_cons_of_mem hl, ih]
        · rw [without_cons_of_not_mem hl, without_cons_of_not_mem hl, ih]
      · next h₁ h₂ =>
        obtain rfl : k = l := String.le_antisymm (String.not_lt.mp h₂) (String.not_lt.mp h₁)
        rw [without_cons_of_mem h, without_cons_of_mem h]

/-- A key before all others goes to the front. -/
theorem insert_before {k : String} {v : β} {ms : List (String × β)} (h : ∀ l ∈ keys ms, k < l) :
    insert k v ms = (k, v) :: ms := by
  cases ms with
  | nil => rfl
  | cons m ms => exact if_pos (h m.1 List.mem_cons_self)

/-- Another insertion may be made before or after keys are left out. -/
theorem without_insert_of_not_mem {ks : List String} {k : String} (h : k ∉ ks) (v : β)
    {ms : List (String × β)} (order : Ascending ms) :
    without ks (insert k v ms) = insert k v (without ks ms) := by
  induction ms with
  | nil => exact without_cons_of_not_mem h v []
  | cons m ms ih =>
    obtain ⟨l, w⟩ := m
    obtain ⟨before, rest⟩ := ascending_cons.mp order
    by_cases lt : k < l
    · have first : ∀ j ∈ keys (without ks ((l, w) :: ms)), k < j := by
        intro j hj
        rcases List.mem_cons.mp (mem_keys_of_mem_without hj) with rfl | hj
        · exact lt
        · exact String.lt_trans lt (before j hj)
      rw [insert_before first, insert, if_pos lt, without_cons_of_not_mem h]
    · by_cases gt : l < k
      · rw [insert, if_neg lt, if_pos gt]
        by_cases hl : l ∈ ks
        · rw [without_cons_of_mem hl, without_cons_of_mem hl, ih rest]
        · rw [without_cons_of_not_mem hl, without_cons_of_not_mem hl, ih rest, insert, if_neg lt,
            if_pos gt]
      · obtain rfl : k = l := String.le_antisymm (String.not_lt.mp gt) (String.not_lt.mp lt)
        rw [insert, if_neg lt, if_neg lt, without_cons_of_not_mem h, without_cons_of_not_mem h,
          insert, if_neg lt, if_neg lt]

private theorem without_foldl_insert (ks : List String) (ms : List (String × β))
    {d : List (String × β)} (order : Ascending d) :
    without ks (ms.foldl (fun d m ↦ insert m.1 m.2 d) d) =
      (without ks ms).foldl (fun d m ↦ insert m.1 m.2 d) (without ks d) := by
  induction ms generalizing d with
  | nil => rfl
  | cons m ms ih =>
    obtain ⟨k, v⟩ := m
    rw [List.foldl_cons, ih (ascending_insert order)]
    by_cases h : k ∈ ks
    · rw [without_insert_of_mem h, without_cons_of_mem h]
    · rw [without_insert_of_not_mem h v order, without_cons_of_not_mem h, List.foldl_cons]

/-- Keys may be left out before a dictionary is made. -/
theorem without_ofPairs (ks : List String) (ms : List (String × β)) :
    without ks (ofPairs ms) = ofPairs (without ks ms) :=
  without_foldl_insert ks ms ascending_nil

/-- Changing the values commutes with leaving out keys. -/
theorem map_without (f : β → γ) (ks : List String) (ms : List (String × β)) :
    (without ks ms).map (fun m ↦ (m.1, f m.2)) = without ks (ms.map fun m ↦ (m.1, f m.2)) := by
  rw [without, without, List.filter_map]
  rfl

/-- Where no key is left out, everything stays. -/
theorem without_of_forall {ks : List String} {ms : List (String × β)} (h : ∀ k ∈ keys ms, k ∉ ks) :
    without ks ms = ms := by
  apply List.filter_eq_self.mpr
  intro m hm
  simp [h m.1 (List.mem_map_of_mem hm)]

/-- Under a key that stays the same is found as before. -/
theorem get?_without {ks : List String} {k : String} (stays : k ∉ ks) (ms : List (String × β)) :
    get? k (without ks ms) = get? k ms := by
  induction ms with
  | nil => rfl
  | cons m ms ih =>
    obtain ⟨l, v⟩ := m
    by_cases gone : l ∈ ks
    · have other : (l == k) = false := beq_eq_false_iff_ne.mpr fun eq ↦ stays (eq ▸ gone)
      rw [without_cons_of_mem gone, ih]
      simp [get?, other]
    · rw [without_cons_of_not_mem gone]
      by_cases found : l = k
      · simp [get?, found]
      · have other : (l == k) = false := beq_eq_false_iff_ne.mpr found
        simpa [get?, other] using ih

/-- Keys may be left out in either order. -/
theorem without_comm (ks ls : List String) (ms : List (String × β)) :
    without ks (without ls ms) = without ls (without ks ms) := by
  rw [without, without, without, without, List.filter_filter, List.filter_filter]
  apply List.filter_congr
  intro m _
  exact Bool.and_comm _ _

end VersionedStore.Dictionary
