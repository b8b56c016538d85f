import VersionedStore.Specification.Basic

/-!
# Specifications in postfix form

A specification as a list in which and, or and not stand behind what they join.
-/

namespace VersionedStore.Specification

universe u

/-- A part of a specification in postfix form. -/
inductive Part (L : Type u) where
  | leaf (l : L)
  | and
  | or
  | not
  deriving DecidableEq

variable {L : Type u}

/-- A stack of specifications with one more part. -/
def Part.push? : Part L → List (Specification L) → Option (List (Specification L))
  | .leaf l, stack => some (.leaf l :: stack)
  | .and, b :: a :: stack => some (.and a b :: stack)
  | .or, b :: a :: stack => some (.or a b :: stack)
  | .not, a :: stack => some (.not a :: stack)
  | _, _ => none

/-- The specification that parts spell. -/
def ofPostfix? (parts : List (Part L)) : Option (Specification L) :=
  match parts.foldlM (fun stack p ↦ p.push? stack) [] with
  | some [s] => some s
  | _ => none

/-- The parts of a specification. -/
def toPostfix : Specification L → List (Part L)
  | .leaf l => [.leaf l]
  | .and a b => a.toPostfix ++ b.toPostfix ++ [.and]
  | .or a b => a.toPostfix ++ b.toPostfix ++ [.or]
  | .not a => a.toPostfix ++ [.not]

/-- The parts of a specification put it on the stack. -/
theorem foldlM_toPostfix (s : Specification L) (stack : List (Specification L)) :
    s.toPostfix.foldlM (fun stack p ↦ p.push? stack) stack = some (s :: stack) := by
  induction s generalizing stack with
  | leaf l => rfl
  | and a b iha ihb | or a b iha ihb =>
    simp only [toPostfix, List.foldlM_append, iha, ihb, Option.bind_eq_bind, Option.bind_some]
    rfl
  | not a ih =>
    simp only [toPostfix, List.foldlM_append, ih, Option.bind_eq_bind, Option.bind_some]
    rfl

/-- The parts of a specification spell it. -/
theorem ofPostfix?_toPostfix (s : Specification L) : ofPostfix? s.toPostfix = some s := by
  simp [ofPostfix?, foldlM_toPostfix]

end VersionedStore.Specification
