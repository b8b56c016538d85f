import Mathlib.Logic.Relation
import VersionedStore.Specification.Basic

/-!
# Occurrences of leaves

A leaf may occur more than once in a specification, so the occurrences are numbered from left to
right. An evaluation looks at them in this order, at each at most once, and what it finds depends on
no other. The laws of De Morgan, the double negation and the regrouping of a chain may be used
anywhere in a specification: they change neither the value nor the occurrences that are looked at.
-/

namespace VersionedStore.Specification

universe u v

variable {L : Type u} {M : Type v}

/-! ### Numbered leaves -/

/-- The specification with other leaves in the places of its own. -/
def map (f : L → M) : Specification L → Specification M
  | .leaf l => .leaf (f l)
  | .and a b => .and (a.map f) (b.map f)
  | .or a b => .or (a.map f) (b.map f)
  | .not a => .not (a.map f)

/-- The specification with its leaves numbered from left to right, the first one by `n`. -/
def numberedFrom (n : Nat) : Specification L → Specification (L × Nat)
  | .leaf l => .leaf (l, n)
  | .and a b => .and (a.numberedFrom n) (b.numberedFrom (n + a.leaves.length))
  | .or a b => .or (a.numberedFrom n) (b.numberedFrom (n + a.leaves.length))
  | .not a => .not (a.numberedFrom n)

/-- The specification with its leaves numbered from left to right. -/
def numbered (s : Specification L) : Specification (L × Nat) := s.numberedFrom 0

private theorem map_numberedFrom (s : Specification L) (n : Nat) :
    (s.numberedFrom n).map Prod.fst = s := by
  induction s generalizing n with
  | leaf l => rfl
  | and a b iha ihb => simp [numberedFrom, map, iha, ihb]
  | or a b iha ihb => simp [numberedFrom, map, iha, ihb]
  | not a ih => simp [numberedFrom, map, ih]

/-- Each leaf has the number of its place. -/
theorem leaves_numberedFrom (s : Specification L) (n : Nat) :
    (s.numberedFrom n).leaves = s.leaves.zipIdx n := by
  induction s generalizing n with
  | leaf l => rfl
  | and a b iha ihb => simp [numberedFrom, leaves, iha, ihb, List.zipIdx_append]
  | or a b iha ihb => simp [numberedFrom, leaves, iha, ihb, List.zipIdx_append]
  | not a ih => simp [numberedFrom, leaves, ih]

private theorem pairwise_zipIdx (ls : List L) (n : Nat) :
    (ls.zipIdx n).Pairwise fun o p ↦ o.2 < p.2 := by
  induction ls generalizing n with
  | nil => exact List.Pairwise.nil
  | cons l ls ih =>
    refine List.Pairwise.cons (fun o later ↦ ?_) (ih (n + 1))
    have := List.le_snd_of_mem_zipIdx later
    omega

/-- Other leaves of the same values are looked at in the same places. -/
theorem evaluate_map (f : L → M) (truth : M → Bool) (s : Specification L) :
    (s.map f).evaluate truth =
      ⟨(s.evaluate (truth ∘ f)).value, (s.evaluate (truth ∘ f)).visited.map f⟩ := by
  induction s with
  | leaf l => rfl
  | and a b iha ihb =>
    by_cases left : (a.evaluate (truth ∘ f)).value <;> simp [map, evaluate, iha, ihb, left]
  | or a b iha ihb =>
    by_cases left : (a.evaluate (truth ∘ f)).value <;> simp [map, evaluate, iha, ihb, left]
  | not a ih => simp [map, evaluate, ih]

/-- An evaluation depends on the leaves that it looks at alone. -/
theorem evaluate_congr {truth changed : L → Bool} {s : Specification L}
    (agree : ∀ l ∈ (s.evaluate truth).visited, changed l = truth l) :
    s.evaluate changed = s.evaluate truth := by
  induction s with
  | leaf l =>
    have same : changed l = truth l := agree l (by simp [evaluate])
    simp [evaluate, same]
  | and a b iha ihb =>
    by_cases left : (a.evaluate truth).value
    · simp only [evaluate, left, if_true, List.mem_append] at agree
      have sameLeft := iha fun l seen ↦ agree l (.inl seen)
      have sameRight := ihb fun l seen ↦ agree l (.inr seen)
      simp [evaluate, sameLeft, sameRight]
    · simp only [evaluate, left, Bool.false_eq_true, if_false] at agree
      simp [evaluate, iha agree, left]
  | or a b iha ihb =>
    by_cases left : (a.evaluate truth).value
    · simp only [evaluate, left, if_true] at agree
      simp [evaluate, iha agree, left]
    · simp only [evaluate, left, Bool.false_eq_true, if_false, List.mem_append] at agree
      have sameLeft := iha fun l seen ↦ agree l (.inl seen)
      have sameRight := ihb fun l seen ↦ agree l (.inr seen)
      simp [evaluate, sameLeft, sameRight]
  | not a ih =>
    have same := ih agree
    simp [evaluate, same]

/-! ### Laws -/

/-- A law by which one specification may stand in the place of another. -/
inductive Law : Specification L → Specification L → Prop where
  | notAnd (a b : Specification L) : Law (.not (.and a b)) (.or (.not a) (.not b))
  | notOr (a b : Specification L) : Law (.not (.or a b)) (.and (.not a) (.not b))
  | notNot (a : Specification L) : Law (.not (.not a)) a
  | andAnd (a b c : Specification L) : Law (.and (.and a b) c) (.and a (.and b c))
  | orOr (a b c : Specification L) : Law (.or (.or a b) c) (.or a (.or b c))

/-- A law is used once, forwards or backwards, somewhere in a specification. -/
inductive Rewrites : Specification L → Specification L → Prop where
  | forwards {s t : Specification L} (law : Law s t) : Rewrites s t
  | backwards {s t : Specification L} (law : Law t s) : Rewrites s t
  | andLeft {a b : Specification L} (within : Rewrites a b) (c : Specification L) :
      Rewrites (.and a c) (.and b c)
  | andRight {a b : Specification L} (c : Specification L) (within : Rewrites a b) :
      Rewrites (.and c a) (.and c b)
  | orLeft {a b : Specification L} (within : Rewrites a b) (c : Specification L) :
      Rewrites (.or a c) (.or b c)
  | orRight {a b : Specification L} (c : Specification L) (within : Rewrites a b) :
      Rewrites (.or c a) (.or c b)
  | not {a b : Specification L} (within : Rewrites a b) : Rewrites (.not a) (.not b)

variable {s t : Specification L}

/-- A law keeps the leaves in their order. -/
theorem Law.leaves_eq (h : Law s t) : t.leaves = s.leaves := by
  cases h <;> simp [leaves]

/-- A law keeps what an evaluation finds. -/
theorem Law.evaluate_eq (h : Law s t) (truth : L → Bool) : t.evaluate truth = s.evaluate truth := by
  cases h with
  | notAnd a b => by_cases left : (a.evaluate truth).value <;> simp [evaluate, left]
  | notOr a b => by_cases left : (a.evaluate truth).value <;> simp [evaluate, left]
  | notNot a => simp [evaluate]
  | andAnd a b c =>
    by_cases left : (a.evaluate truth).value <;> by_cases mid : (b.evaluate truth).value <;>
      simp [evaluate, left, mid]
  | orOr a b c =>
    by_cases left : (a.evaluate truth).value <;> by_cases mid : (b.evaluate truth).value <;>
      simp [evaluate, left, mid]

/-- A law may be used on numbered leaves. -/
theorem Law.numberedFrom (h : Law s t) (n : Nat) : Law (s.numberedFrom n) (t.numberedFrom n) := by
  cases h with
  | notAnd a b => exact .notAnd _ _
  | notOr a b => exact .notOr _ _
  | notNot a => exact .notNot _
  | andAnd a b c =>
    simp only [Specification.numberedFrom, leaves, List.length_append, ← Nat.add_assoc]
    exact .andAnd _ _ _
  | orOr a b c =>
    simp only [Specification.numberedFrom, leaves, List.length_append, ← Nat.add_assoc]
    exact .orOr _ _ _

/-- Using laws keeps the leaves in their order. -/
theorem Rewrites.leaves_eq (h : Rewrites s t) : t.leaves = s.leaves := by
  induction h with
  | forwards law => exact law.leaves_eq
  | backwards law => exact law.leaves_eq.symm
  | andLeft _ _ ih | andRight _ _ ih | orLeft _ _ ih | orRight _ _ ih => simp [leaves, ih]
  | not _ ih => exact ih

/-- Using laws keeps what an evaluation finds. -/
theorem Rewrites.evaluate_eq (h : Rewrites s t) (truth : L → Bool) :
    t.evaluate truth = s.evaluate truth := by
  induction h with
  | forwards law => exact law.evaluate_eq truth
  | backwards law => exact (law.evaluate_eq truth).symm
  | andLeft _ _ ih | andRight _ _ ih | orLeft _ _ ih | orRight _ _ ih => simp [evaluate, ih]
  | not _ ih => simp [evaluate, ih]

/-- Laws may be used on numbered leaves, which keep their numbers. -/
theorem Rewrites.numberedFrom (h : Rewrites s t) (n : Nat) :
    Rewrites (s.numberedFrom n) (t.numberedFrom n) := by
  induction h generalizing n with
  | forwards law => exact .forwards (law.numberedFrom n)
  | backwards law => exact .backwards (law.numberedFrom n)
  | andLeft within c ih =>
    simp only [Specification.numberedFrom, within.leaves_eq]
    exact .andLeft (ih n) _
  | andRight c _ ih => exact .andRight _ (ih _)
  | orLeft within c ih =>
    simp only [Specification.numberedFrom, within.leaves_eq]
    exact .orLeft (ih n) _
  | orRight c _ ih => exact .orRight _ (ih _)
  | not _ ih => exact .not (ih n)

/-- Using laws again and again keeps what an evaluation finds, and the occurrences it looks at. -/
theorem evaluate_of_rewrites (h : Relation.ReflTransGen Rewrites s t) :
    (∀ truth, t.evaluate truth = s.evaluate truth) ∧
      ∀ values, t.numbered.evaluate values = s.numbered.evaluate values := by
  induction h with
  | refl => exact ⟨fun _ ↦ rfl, fun _ ↦ rfl⟩
  | tail _ once ih =>
    exact ⟨fun truth ↦ (once.evaluate_eq truth).trans (ih.1 truth),
      fun values ↦ ((once.numberedFrom 0).evaluate_eq values).trans (ih.2 values)⟩

/-- Whatever the leaves say of a candidate, an evaluation finds the propositional value. It looks at
the occurrences of leaves from left to right, at each at most once, and no other occurrence has a
part in what it finds and looks at. Nor has the use of laws anywhere in the specification. -/
theorem evaluate_occurrences {C : Type v} (meets : L → C → Bool) (candidate : C)
    (s : Specification L) :
    let truth (l : L) : Bool := meets l candidate
    let values (o : L × Nat) : Bool := truth o.1
    let found := s.evaluate truth
    let looked := s.numbered.evaluate values
    found.value = s.holds truth ∧
      found = ⟨looked.value, looked.visited.map Prod.fst⟩ ∧
      looked.visited.Sublist s.leaves.zipIdx ∧
      looked.visited.Pairwise (fun o p ↦ o.2 < p.2) ∧
      (∀ changed, (∀ o ∈ looked.visited, changed o = values o) →
        s.numbered.evaluate changed = looked) ∧
      ∀ t, Relation.ReflTransGen Rewrites s t →
        t.evaluate truth = found ∧ t.numbered.evaluate values = looked := by
  intro truth values found looked
  have inOrder : looked.visited.Sublist s.leaves.zipIdx := by
    have sublist := visited_sublist values s.numbered
    rwa [numbered, leaves_numberedFrom] at sublist
  refine ⟨value_evaluate truth s, ?_, inOrder, (pairwise_zipIdx _ 0).sublist inOrder,
    fun changed agree ↦ evaluate_congr agree, fun t used ↦ ?_⟩
  · have unnumbered : found = (s.numbered.map Prod.fst).evaluate truth := by
      rw [numbered, map_numberedFrom]
    rw [unnumbered, evaluate_map]
    rfl
  · obtain ⟨same, sameLooked⟩ := evaluate_of_rewrites used
    exact ⟨same truth, sameLooked values⟩

/-- Is it not the case that a number is even and its double is too, or it is even? Of an odd number
the first occurrence of the first leaf decides the conjunction; what the others would say does not
matter, and by a law of De Morgan the same is found. -/
theorem evaluate_occurrences_odd :
    let meets (factor n : Nat) : Bool := factor * n % 2 == 0
    let even : Specification Nat := .leaf 1
    let s : Specification Nat := .or (.not (.and even (.leaf 2))) even
    let t : Specification Nat := .or (.or (.not even) (.not (.leaf 2))) even
    let looked := s.numbered.evaluate fun o ↦ meets o.1 3
    looked = ⟨true, [(1, 0)]⟩ ∧ s.numbered.evaluate (fun o ↦ o.2 != 0) = looked ∧
      t.numbered.evaluate (fun o ↦ meets o.1 3) = looked := by
  intro meets even s t looked
  obtain ⟨-, -, -, -, others, laws⟩ := evaluate_occurrences meets 3 s
  have found : looked = ⟨true, [(1, 0)]⟩ := by decide
  refine ⟨found, others _ fun o seen ↦ ?_, (laws t ?_).2⟩
  · obtain rfl : o = (1, 0) := by simpa [looked, found] using seen
    rfl
  · exact .single (.orLeft (.forwards (.notAnd even (.leaf 2))) even)

end VersionedStore.Specification
