import VersionedStore.Proofs.Registry.Tags

/-!
# Tags are isolated

A call is made alike in any two registries that have the same under its tag. So what is seen of a
run under one tag, the results and the events of its calls and the store that they leave, is what a
run of these calls alone shows: calls under other tags could be left out.
-/

namespace VersionedStore.Registry

open Crud

/-- What a call gives. -/
def Call.Result : Call → Type
  | .register _ => Except ServiceError Unit
  | .ask M _ _ (.serve _) => Reply M.Object
  | .ask M _ _ .loadAll => Except ServiceError (List M.Object)
  | .send .. => Reply Document

/-- Make a call. -/
def Call.make : (c : Call) → Registry → Outcome Registry c.Result
  | .register opening, r => r.register opening.registration
  | .ask M caller moment (.serve request), r => r.call M fun s ↦ s.serve caller moment request
  | .ask M caller _ .loadAll, r => r.call M fun s ↦ s.loadAll caller
  | .send tag caller moment message, r => r.send tag caller moment message

/-- A call that was made, with its result and the events that were reported. -/
structure Turn : Type 1 where
  call : Call
  result : call.Result
  events : List Event

/-- What is seen of a call. -/
def Call.turn (c : Call) (r : Registry) : Turn := ⟨c, (c.make r).value, (c.make r).events⟩

/-- The registry that calls leave, made one after the other. -/
def after (calls : List Call) (r : Registry) : Registry := calls.foldl (fun r c ↦ c.left r) r

/-- What is seen of calls that are made one after the other. -/
def history : List Call → Registry → List Turn
  | [], _ => []
  | c :: calls, r => c.turn r :: history calls (c.left r)

variable {r s : Registry}

/-- The registry that a call leaves is the one that it ends in. -/
theorem Call.state_make (c : Call) (r : Registry) : (c.make r).state = c.left r := by
  cases c with
  | ask M caller moment task => cases task <;> rfl
  | register | send => rfl

/-- A call is made alike wherever the same is registered under its tag. -/
theorem Call.alike_make (c : Call) (same : r.get? c.tag = s.get? c.tag) :
    Alike c.tag (c.make r) (c.make s) := by
  cases c with
  | register opening => exact alike_register opening.registration same
  | ask M caller moment task => cases task <;> exact alike_step same _
  | send tag caller moment message => cases message <;> exact alike_step same _

private theorem Call.turn_congr (c : Call) (same : r.get? c.tag = s.get? c.tag) :
    c.turn r = c.turn s := by
  have alike := c.alike_make same
  rw [turn, turn, alike.value, alike.events]

private theorem Call.get?_left_congr (c : Call) (same : r.get? c.tag = s.get? c.tag) :
    (c.left r).get? c.tag = (c.left s).get? c.tag := by
  rw [← c.state_make, ← c.state_make]
  exact (c.alike_make same).there

/-- Leaving out the calls under other tags, from any registry that has the same under this one,
changes neither what is seen of the calls that remain nor what they leave. -/
theorem run_filter (calls : List Call) {tag : String} (same : r.get? tag = s.get? tag) :
    (history calls r).filter (fun turn ↦ turn.call.tag = tag) =
      history (calls.filter fun c ↦ c.tag = tag) s ∧
    (after calls r).get? tag = (after (calls.filter fun c ↦ c.tag = tag) s).get? tag := by
  induction calls generalizing r s with
  | nil => exact ⟨rfl, same⟩
  | cons c calls ih =>
    by_cases own : c.tag = tag
    · subst own
      -- A call that remains is seen alike, and leaves the same under its tag.
      have rest := ih (c.get?_left_congr same)
      have seen : (c.turn r).call.tag = c.tag := rfl
      simp only [history, List.filter_cons, seen, decide_true, if_true]
      rw [c.turn_congr same, rest.1]
      exact ⟨rfl, rest.2⟩
    · -- A call that is left out leaves the tag alone.
      have rest := ih ((c.get?_left_ne (Ne.symm own)).trans same)
      have unseen : ¬(c.turn r).call.tag = tag := own
      simp only [history, List.filter_cons, own, unseen, decide_false, Bool.false_eq_true, if_false]
      exact rest

/-- Tags are isolated. From any registry, leaving out of a run all calls under other tags than one,
and keeping the moments of the others, changes neither the results and events of the calls that
remain nor what is registered under the tag afterwards, the store of its service included. Each
service has a store of its own; which OIDs are used under the other tags does not matter. -/
theorem tags_isolated (calls : List Call) (tag : String) (r : Registry) :
    let remaining := calls.filter fun c ↦ c.tag = tag
    (history calls r).filter (fun turn ↦ turn.call.tag = tag) = history remaining r ∧
    (after calls r).get? tag = (after remaining r).get? tag :=
  run_filter calls rfl

end VersionedStore.Registry
