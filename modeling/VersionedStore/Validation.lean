import VersionedStore.Schema.Coded
import VersionedStore.Specification.Basic

/-!
# Validation

A rule is a specification with the violation to report where it does not hold. A rule set reports
the violations of the rules that fail, in the order of the rules.
-/

namespace VersionedStore

/-- What is wrong with an object, and in which field. -/
structure Violation where
  field : Option String
  message : String
  deriving DecidableEq

namespace Violation

/-- The violation as one line. -/
def text (v : Violation) : String :=
  match v.field with
  | some field => field ++ ": " ++ v.message
  | none => v.message

/-- A violation is written without its field where it has none. -/
instance : Coded Violation where
  schema := .record "struct ValidationError" false <|
    .cons "field" .sparse (.optional .text) <| .cons "message" .required .text .nil
  toValue v := (v.field, v.message, ())
  ofValue v :=
    let (field, message, _) := v
    ⟨field, message⟩
  ofValue_toValue _ := rfl
  toValue_ofValue _ := rfl

end Violation

universe u

/-- A specification, and what to report where it does not hold. -/
structure Rule (L : Type u) where
  specification : Specification L
  violation : Violation
  deriving DecidableEq

/-- Rules in the order in which they are checked. -/
abbrev RuleSet (L : Type u) := List (Rule L)

namespace RuleSet

variable {L : Type u}

/-- The violations of the rules that do not hold. -/
def check (truth : L → Bool) (rules : RuleSet L) : List Violation :=
  (rules.filter fun r ↦ !r.specification.holds truth).map Rule.violation

/-- The leaves that a check looks at: every rule is evaluated. -/
def visited (truth : L → Bool) (rules : RuleSet L) : List L :=
  rules.flatMap fun r ↦ (r.specification.evaluate truth).visited

/-- A check reports nothing exactly when every rule holds. -/
theorem check_eq_nil_iff {truth : L → Bool} {rules : RuleSet L} :
    rules.check truth = [] ↔ ∀ r ∈ rules, r.specification.holds truth = true := by
  simp [check, List.filter_eq_nil_iff]

end RuleSet

end VersionedStore
