/-!
# Specifications

A specification is built from leaves by and, or and not. `holds` is its propositional value.
`evaluate` is how it is found: from left to right, leaving out a right side that cannot change the
answer, and with the leaves that were looked at in their order. Both give the same value.
-/

namespace VersionedStore

universe u

/-- A condition built from leaves. -/
inductive Specification (L : Type u) where
  | leaf (l : L)
  | and (left right : Specification L)
  | or (left right : Specification L)
  | not (inner : Specification L)
  deriving DecidableEq

namespace Specification

variable {L : Type u}

/-- The propositional value over the values of the leaves. -/
def holds (truth : L → Bool) : Specification L → Bool
  | .leaf l => truth l
  | .and a b => a.holds truth && b.holds truth
  | .or a b => a.holds truth || b.holds truth
  | .not a => !a.holds truth

/-- What an evaluation finds: a value, and the leaves it looked at in their order. -/
structure Evaluation (L : Type u) where
  value : Bool
  visited : List L
  deriving DecidableEq

/-- Find the value from left to right; the right side counts only where the left one leaves it open.
-/
def evaluate (truth : L → Bool) : Specification L → Evaluation L
  | .leaf l => ⟨truth l, [l]⟩
  | .and a b =>
    let left := a.evaluate truth
    if left.value then
      let right := b.evaluate truth
      ⟨right.value, left.visited ++ right.visited⟩
    else left
  | .or a b =>
    let left := a.evaluate truth
    if left.value then left
    else
      let right := b.evaluate truth
      ⟨right.value, left.visited ++ right.visited⟩
  | .not a =>
    let inner := a.evaluate truth
    ⟨!inner.value, inner.visited⟩

/-- The leaves from left to right. -/
def leaves : Specification L → List L
  | .leaf l => [l]
  | .and a b | .or a b => a.leaves ++ b.leaves
  | .not a => a.leaves

/-- An evaluation finds the propositional value. -/
theorem value_evaluate (truth : L → Bool) (s : Specification L) :
    (s.evaluate truth).value = s.holds truth := by
  induction s with
  | leaf l => rfl
  | and a b iha ihb => cases h : (a.evaluate truth).value <;> simp_all [evaluate, holds]
  | or a b iha ihb => cases h : (a.evaluate truth).value <;> simp_all [evaluate, holds]
  | not a ih => simp [evaluate, holds, ih]

/-- An evaluation looks at leaves in their order and at each at most once. -/
theorem visited_sublist (truth : L → Bool) (s : Specification L) :
    (s.evaluate truth).visited.Sublist s.leaves := by
  induction s with
  | leaf l => exact List.Sublist.refl _
  | and a b iha ihb =>
    cases h : (a.evaluate truth).value
    · simpa [evaluate, h, leaves] using iha.trans (List.sublist_append_left _ _)
    · simpa [evaluate, h, leaves] using iha.append ihb
  | or a b iha ihb =>
    cases h : (a.evaluate truth).value
    · simpa [evaluate, h, leaves] using iha.append ihb
    · simpa [evaluate, h, leaves] using iha.trans (List.sublist_append_left _ _)
  | not a ih => exact ih

end Specification

end VersionedStore
