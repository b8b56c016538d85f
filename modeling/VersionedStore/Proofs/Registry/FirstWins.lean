import Mathlib.Data.List.Induction
import VersionedStore.Proofs.Registry.Tags

/-!
# The first service under a tag stays

A registry is used by calls and by looks at what is registered. Whatever the uses are, the first
service that is registered under a tag is the one that is found by its model and reached by messages
from then on, no other is registered under the tag, and the tags are listed in order. Models that
share a tag are told apart when a service is looked up.
-/

namespace VersionedStore.Registry

open Crud

/-- A use of a registry: a call, or a look at what is registered. -/
inductive Use : Type 1 where
  | call (c : Call)
  | service (M : Model)
  | isRegistered (tag : String)
  | tags

/-- The registry that a use leaves; looking leaves it as it is. -/
def Use.left : Use → Registry → Registry
  | .call c, r => c.left r
  | .service _, r | .isRegistered _, r | .tags, r => r

/-- The registry that is reached by uses, one after the other. -/
def used (uses : List Use) : Registry := uses.foldl (fun r u ↦ u.left r) .empty

/-- A service was registered in the course of uses. -/
def Registered (uses : List Use) (opening : Opening) : Prop :=
  ∃ before later, uses = before ++ .call (.register opening) :: later ∧
    ((used before).register opening.registration).value = .ok ()

/-- The service is found by its model, and is the one that is reached under its tag, by its model as
well as by messages. Another model with its tag does not find it. -/
structure Offers (r : Registry) (opening : Opening) : Prop where
  found : r.service? opening.registration.model =
    .ok ⟨opening.registration.State, opening.registration.service⟩
  mismatch : ∀ M : Model, M.tag = opening.tag → M ≠ opening.registration.model →
    r.service? M = .error (.typeMismatch M.name opening.registration.model.name)
  listed : r.isRegistered opening.tag = true
  reached : ∃ st, r.get? opening.tag = some (opening.registration.withState st) ∧
    (∀ caller moment message,
      let o := (opening.registration.service.answerMessage caller moment message).run st
      r.send opening.tag caller moment message =
        ⟨o.value, r.put opening.tag (opening.registration.withState o.state), o.events⟩) ∧
    ∀ {α : Type} (use : {σ : Type} → Service opening.registration.model σ →
        Action σ (Except ServiceError α)),
      let o := (use opening.registration.service).run st
      r.call opening.registration.model use =
        ⟨o.value, r.put opening.tag (opening.registration.withState o.state), o.events⟩

/-- There is no service under a tag. -/
structure Lacks (r : Registry) (tag : String) : Prop where
  found : ∀ M : Model, M.tag = tag → r.service? M = .error (.notRegistered tag)
  listed : r.isRegistered tag = false
  unanswered : ∀ caller moment message,
    r.send tag caller moment message = ⟨.error (.notRegistered tag), r, []⟩

section

variable {r : Registry} {tag : String}

private theorem offers_of_get? {opening : Opening} {st : opening.registration.State}
    (there : r.get? opening.tag = some (opening.registration.withState st)) :
    r.Offers opening where
  found := by
    have here : r.get? opening.registration.model.tag = _ := there
    rw [service?, here]
    exact dif_pos rfl
  mismatch M same other := by
    rw [service?, same, there]
    exact dif_neg (Ne.symm other)
  listed := by
    rw [isRegistered, there]
    rfl
  reached := by
    have here : r.get? (opening.registration.withState st).model.tag =
        some (opening.registration.withState st) := there
    exact ⟨st, there, fun caller moment message ↦ send_of_registered there caller moment message,
      fun use ↦ call_of_registered here use⟩

private theorem lacks_of_get? (free : r.get? tag = none) : r.Lacks tag where
  found M same := by rw [service?, same, free]
  listed := by
    rw [isRegistered, free]
    rfl
  unanswered caller moment message := by
    cases message <;> exact step_of_free free _

end

/-- A use that comes last goes on from the registry that the others leave. -/
theorem used_append (uses : List Use) (u : Use) : used (uses ++ [u]) = u.left (used uses) := by
  rw [used, List.foldl_append]
  rfl

/-- What was registered was registered before the last use or by it. -/
theorem registered_append {uses : List Use} {u : Use} {opening : Opening} :
    Registered (uses ++ [u]) opening ↔ Registered uses opening ∨
      u = .call (.register opening) ∧
        ((used uses).register opening.registration).value = .ok () := by
  constructor
  · rintro ⟨before, later, split, done⟩
    rcases later.eq_nil_or_concat with rfl | ⟨more, last, rfl⟩
    · obtain ⟨rfl, same⟩ := List.append_inj' split rfl
      exact .inr ⟨List.singleton_inj.mp same, done⟩
    · rw [List.concat_eq_append, ← List.cons_append, ← List.append_assoc] at split
      exact .inl ⟨before, more, (List.append_inj' split rfl).1, done⟩
  · rintro (⟨before, later, rfl, done⟩ | ⟨rfl, done⟩)
    · exact ⟨before, later ++ [u], by simp, done⟩
    · exact ⟨uses, [], rfl, done⟩

/-- Only the state of a service that is registered changes in the course of uses. -/
theorem get?_of_registered {uses : List Use} {opening : Opening}
    (registered : Registered uses opening) :
    ∃ st, (used uses).get? opening.tag = some (opening.registration.withState st) := by
  induction uses using List.reverseRecOn with
  | nil =>
    obtain ⟨before, later, split, -⟩ := registered
    simp at split
  | append_singleton uses u ih =>
    rw [used_append]
    rcases registered_append.mp registered with earlier | ⟨rfl, done⟩
    · obtain ⟨st, there⟩ := ih earlier
      cases u with
      | service | isRegistered | tags => exact ⟨st, there⟩
      | call c =>
        by_cases own : opening.tag = c.tag
        · rw [own] at there ⊢
          obtain ⟨st', kept⟩ := c.get?_left_of_registered there
          exact ⟨st', kept⟩
        · exact ⟨st, (c.get?_left_ne own).trans there⟩
    · refine ⟨opening.registration.state, ?_⟩
      cases free : (used uses).get? opening.registration.model.tag with
      | none =>
        rw [Use.left, Call.left, register_of_free free]
        exact get?_put_self _ _ _
      | some taken =>
        rw [register_of_taken free] at done
        cases done

/-- A tag under which no service was registered is free. -/
theorem get?_of_not_registered {uses : List Use} {tag : String}
    (none : ∀ opening, Registered uses opening → opening.tag ≠ tag) :
    (used uses).get? tag = .none := by
  induction uses using List.reverseRecOn with
  | nil => rfl
  | append_singleton uses u ih =>
    have free := ih fun opening earlier ↦ none opening (registered_append.mpr (.inl earlier))
    rw [used_append]
    cases u with
    | service | isRegistered | tags => exact free
    | call c =>
      by_cases own : tag = c.tag
      · subst own
        obtain ⟨opening, rfl, -⟩ | ⟨-, same⟩ := c.get?_left_of_free free
        · have done : ((used uses).register opening.registration).value = .ok () := by
            rw [register_of_free free]
          exact absurd rfl (none opening (registered_append.mpr (.inr ⟨rfl, done⟩)))
        · rw [Use.left, same]
          exact free
      · exact (c.get?_left_ne own).trans free

/-- What is used stays in order. -/
theorem sound_used (uses : List Use) : (used uses).Sound := by
  refine List.foldlRecOn uses _ (sound_reached []) fun r sound u _ ↦ ?_
  cases u with
  | call c => exact sound.left c
  | service | isRegistered | tags => exact sound

/-- A registry is a map in which the first service under a tag stays. However it is used, a service
is registered exactly when none was registered under its tag before, and otherwise the registry
stays as it is. Every service that was registered is found by its model and reached by messages from
then on, while another model with its tag is told the two names; where none was registered, none is
found or reached. The tags are listed in strictly ascending order, and are those under which a
service was registered. -/
theorem first_wins (uses : List Use) :
    (∀ opening : Opening,
      (((used uses).register opening.registration).value = .ok () ↔
        ∀ earlier, Registered uses earlier → earlier.tag ≠ opening.tag) ∧
      ∀ earlier, Registered uses earlier → earlier.tag = opening.tag →
        (used uses).register opening.registration =
          ⟨.error (.alreadyRegistered opening.tag), used uses, []⟩) ∧
    (∀ first, Registered uses first → (used uses).Offers first) ∧
    (∀ tag, (∀ opening, Registered uses opening → opening.tag ≠ tag) → (used uses).Lacks tag) ∧
    (used uses).tags.Pairwise (· < ·) ∧
    ∀ tag, tag ∈ (used uses).tags ↔ ∃ first, Registered uses first ∧ first.tag = tag := by
  have refused (opening earlier : Opening) (registered : Registered uses earlier)
      (same : earlier.tag = opening.tag) : (used uses).register opening.registration =
        ⟨.error (.alreadyRegistered opening.tag), used uses, []⟩ := by
    obtain ⟨st, there⟩ := get?_of_registered registered
    rw [same] at there
    exact register_of_taken there
  refine ⟨fun opening ↦ ⟨⟨fun done earlier registered same ↦ ?_, fun none ↦ ?_⟩, refused opening⟩,
    fun first registered ↦ ?_, fun tag none ↦ lacks_of_get? (get?_of_not_registered none),
    (sound_used uses).order, fun tag ↦ ?_⟩
  · rw [refused opening earlier registered same] at done
    cases done
  · rw [register_of_free (get?_of_not_registered none)]
  · obtain ⟨st, there⟩ := get?_of_registered registered
    exact offers_of_get? there
  · have listed : tag ∈ (used uses).tags ↔ ((used uses).get? tag).isSome = true :=
      Dictionary.isSome_get?_iff.symm
    rw [listed]
    constructor
    · intro there
      by_contra none
      rw [get?_of_not_registered fun first registered same ↦ none ⟨first, registered, same⟩] at there
      cases there
    · rintro ⟨first, registered, rfl⟩
      obtain ⟨st, there⟩ := get?_of_registered registered
      rw [there]
      rfl

/-- Impostors come too late where notes are registered already. -/
example : ((used [.call (.register (.empty Catalogue.note .standard fun _ ↦ []))]).register
    (Opening.empty Catalogue.impostor .standard fun _ ↦ []).registration).value =
      .error (.alreadyRegistered "note") :=
  rfl

end VersionedStore.Registry
