import VersionedStore.Declaration.Expansion

/-!
# Default tags

A model that is given no tag is known by its name in small letters. In small letters no name has a
capital, and there is nothing more to make small. The capitals of a name that begins with one and
has no underscore come back from the underscores, so two such names never give the same tag.
-/

namespace VersionedStore

namespace Text

/-- The capitals of ASCII by their codes. -/
theorem isUpper_iff {c : Char} : c.isUpper = true ↔ 65 ≤ c.toNat ∧ c.toNat ≤ 90 := by
  have test : c.isUpper = decide (c.val ≥ 'A'.val ∧ c.val ≤ 'Z'.val) := rfl
  simp [test, UInt32.le_iff_toNat_le]

private theorem toNat_toLower_lt {c : Char} (ascii : c.toNat < 0x80) : c.toLower.toNat < 0x80 := by
  rw [toNat_toLower]
  split <;> omega

private theorem isCapital_toLower {c : Char} (ascii : c.toNat < 0x80) :
    isCapital c.toLower = false := by
  rw [isCapital_ascii (toNat_toLower_lt ascii)]
  apply eq_false_of_ne_true
  intro capital
  rw [isUpper_iff, toNat_toLower] at capital
  split at capital <;> omega

end Text

namespace Declaration

open Text

/-! ### Small letters -/

/-- All characters of a text are ASCII. -/
def IsAscii (s : String) : Prop := ∀ c ∈ s.toList, c.toNat < 0x80

instance (s : String) : Decidable (IsAscii s) := List.decidableBAll _ _

/-- The characters of a name in small letters: the first, and those inside. -/
theorem toList_snakeCase (s : String) :
    (snakeCase s).toList =
      s.toList.head?.toList.flatMap snakeFirst ++ s.toList.tail.flatMap snakeInside := by
  unfold snakeCase
  cases s.toList <;> simp

/-- What an ASCII character inside a name becomes. -/
theorem snakeInside_ascii {c : Char} (ascii : c.toNat < 0x80) :
    snakeInside c = if c.isUpper then ['_', c.toLower] else [c] := by
  simp [snakeInside, isCapital_ascii ascii, smallForm_ascii ascii]

/-- No capital comes out of an ASCII character. -/
theorem isCapital_of_mem_snakeInside {c d : Char} (ascii : c.toNat < 0x80)
    (mem : d ∈ snakeInside c) : isCapital d = false := by
  unfold snakeInside at mem
  split at mem
  · rw [smallForm_ascii ascii] at mem
    rcases List.mem_cons.mp mem with rfl | mem
    · rfl
    · rw [List.mem_singleton.mp mem]
      exact isCapital_toLower ascii
  · next small => rw [List.mem_singleton.mp mem, Bool.eq_false_iff.mpr small]

private theorem mem_snakeInside_of_mem_snakeFirst {c d : Char} (mem : d ∈ snakeFirst c) :
    d ∈ snakeInside c := by
  unfold snakeFirst at mem
  unfold snakeInside
  split at mem
  · next capital => rw [if_pos capital]; exact List.mem_cons_of_mem _ mem
  · next small => rwa [if_neg small]

/-- An ASCII name in small letters has no capital. -/
theorem isCapital_of_mem_snakeCase {s : String} (ascii : IsAscii s) :
    ∀ c ∈ (snakeCase s).toList, isCapital c = false := by
  intro d mem
  rw [toList_snakeCase, List.mem_append] at mem
  rcases mem with first | inside
  · obtain ⟨c, own, mem⟩ := List.mem_flatMap.mp first
    have here : c ∈ s.toList := List.mem_of_mem_head? (by simpa using own)
    exact isCapital_of_mem_snakeInside (ascii c here) (mem_snakeInside_of_mem_snakeFirst mem)
  · obtain ⟨c, own, mem⟩ := List.mem_flatMap.mp inside
    exact isCapital_of_mem_snakeInside (ascii c (List.mem_of_mem_tail own)) mem

private theorem flatMap_snakeInside_of_small {cs : List Char}
    (small : ∀ c ∈ cs, isCapital c = false) :
    cs.flatMap snakeInside = cs := by
  induction cs with
  | nil => rfl
  | cons c cs ih =>
    rw [List.forall_mem_cons] at small
    simp [snakeInside, small.1, ih small.2]

/-- A name without capitals stays as it is. -/
theorem snakeCase_of_small {s : String} (small : ∀ c ∈ s.toList, isCapital c = false) :
    snakeCase s = s := by
  apply String.toList_inj.mp
  rw [toList_snakeCase]
  cases chars : s.toList with
  | nil => rfl
  | cons c cs =>
    rw [chars, List.forall_mem_cons] at small
    simp [snakeFirst, small.1, flatMap_snakeInside_of_small small.2]

/-! ### Capitals again -/

/-- The capital of a small letter. -/
def capital (c : Char) : Char := Char.ofNat (c.toNat - 32)

/-- Characters with a capital for each small letter behind an underscore, which is left out. -/
def restored : List Char → List Char
  | '_' :: c :: cs => capital c :: restored cs
  | c :: cs => c :: restored cs
  | [] => []

/-- A capital is that of its small letter. -/
theorem capital_toLower {c : Char} (upper : c.isUpper = true) : capital c.toLower = c := by
  have code : c.toLower.toNat = c.toNat + 32 := by
    rw [toNat_toLower, if_pos (isUpper_iff.mp upper)]
  rw [capital, code, Nat.add_sub_cancel, Char.ofNat_toNat]

private theorem restored_flatMap {cs : List Char} (ascii : ∀ c ∈ cs, c.toNat < 0x80)
    (joined : '_' ∉ cs) :
    restored (cs.flatMap snakeInside) = cs := by
  induction cs with
  | nil => rfl
  | cons c cs ih =>
    rw [List.forall_mem_cons] at ascii
    rw [List.mem_cons, not_or] at joined
    have others := ih ascii.2 joined.2
    by_cases upper : c.isUpper = true
    · simp [snakeInside_ascii ascii.1, upper, restored, capital_toLower upper, others]
    · have plain : c ≠ '_' := fun same ↦ joined.1 same.symm
      simp [snakeInside_ascii ascii.1, upper, restored, plain, others]

/-- A name of the usual form: it begins with a capital, and its words stand together. -/
structure Conventional (s : String) : Prop where
  ascii : IsAscii s
  capital : s.toList.head?.any Char.isUpper = true
  joined : '_' ∉ s.toList

/-- The name that has these characters in small letters. -/
def nameOf : List Char → List Char
  | c :: cs => capital c :: restored cs
  | [] => []

/-- A name of the usual form comes back from its small letters. -/
theorem nameOf_snakeCase {s : String} (h : Conventional s) :
    nameOf (snakeCase s).toList = s.toList := by
  obtain ⟨ascii, upper, joined⟩ := h
  rw [toList_snakeCase]
  unfold IsAscii at ascii
  cases chars : s.toList with
  | nil => simp [chars] at upper
  | cons c cs =>
    rw [chars] at ascii upper joined
    rw [List.forall_mem_cons] at ascii
    rw [List.mem_cons, not_or] at joined
    have first : snakeFirst c = [c.toLower] := by
      have isCapital : isCapital c = true := (isCapital_ascii ascii.1).trans upper
      simp [snakeFirst, isCapital, smallForm_ascii ascii.1]
    simp [first, nameOf, capital_toLower upper, restored_flatMap ascii.2 joined.2]

/-- Names of the usual form differ in small letters. -/
theorem snakeCase_injective {s t : String} (hs : Conventional s) (ht : Conventional t)
    (same : snakeCase s = snakeCase t) : s = t := by
  apply String.toList_inj.mp
  rw [← nameOf_snakeCase hs, ← nameOf_snakeCase ht, same]

/-! ### Tags of models -/

/-- A model that is given no tag is known by its name in small letters. -/
theorem tag_modelExpansion {arguments : ModelArguments} {s : Struct} {e : Expansion}
    (accepted : modelExpansion arguments (.struct s) = .ok e) (untagged : arguments.tag = none) :
    e.tag = some (snakeCase s.name) := by
  obtain ⟨oid, fields, -, -, rfl⟩ := modelExpansion_eq_ok_iff.mp accepted
  simp [untagged]

/-- In small letters an ASCII name has no capital, and there is nothing more to make small. Two
names that begin with capitals and have no underscores are the same if they are so in small
letters, and so are the names of two models of this form that are known by one tag, having been
given none. -/
theorem defaultTags_apart :
    (∀ s, IsAscii s → (∀ c ∈ (snakeCase s).toList, isCapital c = false) ∧
      snakeCase (snakeCase s) = snakeCase s) ∧
    (∀ s t, Conventional s → Conventional t → snakeCase s = snakeCase t → s = t) ∧
    ∀ (a b : ModelArguments) (s t : Struct) (d e : Expansion),
      modelExpansion a (.struct s) = .ok d → modelExpansion b (.struct t) = .ok e →
      a.tag = none → b.tag = none → Conventional s.name → Conventional t.name →
      d.tag = e.tag → s.name = t.name := by
  refine ⟨fun s ascii ↦ ?_, fun s t ↦ snakeCase_injective, ?_⟩
  · have small := isCapital_of_mem_snakeCase ascii
    exact ⟨small, snakeCase_of_small small⟩
  · intro a b s t d e accepted accepted' untagged untagged' hs ht same
    rw [tag_modelExpansion accepted untagged, tag_modelExpansion accepted' untagged'] at same
    exact snakeCase_injective hs ht (Option.some.inj same)

/-- The name of a purchase order in small letters stays as it is, and capitals tell names apart. -/
theorem defaultTags_apart_orders :
    snakeCase (snakeCase "PurchaseOrder") = "purchase_order" ∧
      snakeCase "XmlOrder" ≠ snakeCase "XMLOrder" := by
  obtain ⟨small, apart, -⟩ := defaultTags_apart
  have once : snakeCase "PurchaseOrder" = "purchase_order" := by decide
  have usual : Conventional "XmlOrder" := ⟨by decide, by decide, by decide⟩
  have usual' : Conventional "XMLOrder" := ⟨by decide, by decide, by decide⟩
  refine ⟨(small "PurchaseOrder" (by decide)).2.trans once, fun same ↦ ?_⟩
  exact absurd (apart _ _ usual usual' same) (by decide)

end Declaration

end VersionedStore
