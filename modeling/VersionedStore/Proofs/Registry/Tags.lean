import VersionedStore.Proofs.Registry.Run

/-!
# What a call does to the registrations

Every call is about one tag. It reads nothing but what is registered there, and leaves what is
registered under the other tags. Under its own tag, a service that is registered stays and only its
state may change; where none is, only a registration puts one.
-/

namespace VersionedStore

open Crud

/-- The tag under which a service is registered. -/
def Opening.tag (opening : Opening) : String := opening.registration.model.tag

namespace Registration

/-- The same service with another state. -/
def withState (registration : Registration) (st : registration.State) : Registration :=
  { registration with state := st }

/-- Only the state changes when an action of the registered service is run. -/
theorem state_perform {α : Type} (registration : Registration)
    (action : Service registration.model registration.State → Action registration.State α) :
    (registration.perform action).state =
      registration.withState ((action registration.service).run registration.state).state :=
  rfl

end Registration

namespace Registry

/-- The tag that a call is about. -/
def Call.tag : Call → String
  | .register opening => opening.tag
  | .ask M _ _ _ => M.tag
  | .send tag _ _ _ => tag

/-- Two outcomes have the same value and events, and the same is registered under a tag
afterwards. -/
structure Alike {α : Type} (tag : String) (o p : Outcome Registry α) : Prop where
  value : o.value = p.value
  events : o.events = p.events
  there : o.state.get? tag = p.state.get? tag

variable {r : Registry} {tag : String}

/-- A service is registered alike wherever the same lies under its tag. -/
theorem alike_register {s : Registry} (registration : Registration)
    (same : r.get? registration.model.tag = s.get? registration.model.tag) :
    Alike registration.model.tag (r.register registration) (s.register registration) := by
  simp only [register, ← same]
  cases there : r.get? registration.model.tag with
  | some other => exact ⟨rfl, rfl, same⟩
  | none => exact ⟨rfl, rfl, (get?_put_self _ _ r).trans (get?_put_self _ _ s).symm⟩

/-- A step is taken alike wherever the same is registered under its tag. -/
theorem alike_step {α : Type} {s : Registry} (same : r.get? tag = s.get? tag)
    (f : Registration → Outcome Registration (Except ServiceError α)) :
    Alike tag (r.step tag f) (s.step tag f) := by
  simp only [step, ← same]
  cases there : r.get? tag with
  | none => exact ⟨rfl, rfl, same⟩
  | some registration => exact ⟨rfl, rfl, (get?_put_self _ _ r).trans (get?_put_self _ _ s).symm⟩

private theorem get?_register_ne (registration : Registration)
    (other : tag ≠ registration.model.tag) :
    (r.register registration).state.get? tag = r.get? tag := by
  rw [register]
  cases r.get? registration.model.tag with
  | some taken => rfl
  | none => exact get?_put_ne other registration r

/-- A step leaves what is registered under other tags. -/
theorem get?_step_ne {α : Type} {other : String} (h : other ≠ tag)
    (f : Registration → Outcome Registration (Except ServiceError α)) :
    (r.step tag f).state.get? other = r.get? other := by
  rw [step]
  cases r.get? tag with
  | none => rfl
  | some registration => exact get?_put_ne h _ r

/-- A service is registered under a free tag. -/
theorem register_of_free {registration : Registration}
    (free : r.get? registration.model.tag = none) :
    r.register registration = ⟨.ok (), r.put registration.model.tag registration,
      [.registered registration.model.tag]⟩ := by
  rw [register, free]

/-- A tag that is taken is not given again, and the registry stays. -/
theorem register_of_taken {registration taken : Registration}
    (there : r.get? registration.model.tag = some taken) :
    r.register registration = ⟨.error (.alreadyRegistered registration.model.tag), r, []⟩ := by
  rw [register, there]

/-- A step finds no service under a free tag and leaves the registry alone. -/
theorem step_of_free {α : Type} (free : r.get? tag = none)
    (f : Registration → Outcome Registration (Except ServiceError α)) :
    r.step tag f = ⟨.error (.notRegistered tag), r, []⟩ := by
  rw [step, free]

/-- A step puts back what becomes of the registration. -/
theorem step_of_registered {α : Type} {registration : Registration}
    (there : r.get? tag = some registration)
    (f : Registration → Outcome Registration (Except ServiceError α)) :
    r.step tag f = ⟨(f registration).value, r.put tag (f registration).state,
      (f registration).events⟩ := by
  rw [step, there]

/-- A step that changes no more than the state leaves the service under its tag. -/
theorem get?_step_self {α : Type} {registration : Registration}
    (there : r.get? tag = some registration)
    {f : Registration → Outcome Registration (Except ServiceError α)}
    (keeps : ∃ st, (f registration).state = registration.withState st) :
    ∃ st, (r.step tag f).state.get? tag = some (registration.withState st) := by
  obtain ⟨st, kept⟩ := keeps
  refine ⟨st, ?_⟩
  rw [step_of_registered there, kept]
  exact get?_put_self _ _ r

/-- A service that is asked by its model answers, and its state is kept. -/
theorem call_of_registered {α : Type} {registration : Registration}
    (there : r.get? registration.model.tag = some registration)
    (use : {σ : Type} → Service registration.model σ → Action σ (Except ServiceError α)) :
    let o := (use registration.service).run registration.state
    r.call registration.model use =
      ⟨o.value, r.put registration.model.tag (registration.withState o.state), o.events⟩ := by
  rw [call, step_of_registered there, dif_pos rfl]
  rfl

private theorem get?_call_self {α : Type} {M : Model} {registration : Registration}
    (there : r.get? M.tag = some registration)
    (use : {σ : Type} → Service M σ → Action σ (Except ServiceError α)) :
    ∃ st, (r.call M use).state.get? M.tag = some (registration.withState st) := by
  apply get?_step_self there
  by_cases same : registration.model = M
  · rw [dif_pos same]
    exact ⟨_, registration.state_perform _⟩
  · rw [dif_neg same]
    exact ⟨registration.state, rfl⟩

/-- A call leaves what is registered under other tags. -/
theorem Call.get?_left_ne (c : Call) (other : tag ≠ c.tag) :
    (c.left r).get? tag = r.get? tag := by
  cases c with
  | register opening => exact get?_register_ne opening.registration other
  | ask M caller moment task => cases task <;> exact get?_step_ne other _
  | send tag caller moment message => cases message <;> exact get?_step_ne other _

/-- A call leaves the service under its tag; only the state may change. -/
theorem Call.get?_left_of_registered (c : Call) {registration : Registration}
    (there : r.get? c.tag = some registration) :
    ∃ st, (c.left r).get? c.tag = some (registration.withState st) := by
  cases c with
  | register opening =>
    refine ⟨registration.state, ?_⟩
    rw [left, register_of_taken there]
    exact there
  | ask M caller moment task => cases task <;> exact get?_call_self there _
  | send tag caller moment message =>
    cases message <;> exact get?_step_self there ⟨_, registration.state_perform _⟩

/-- Under a free tag, a call leaves nothing but what it registers. -/
theorem Call.get?_left_of_free (c : Call) (free : r.get? c.tag = none) :
    (∃ opening, c = .register opening ∧
      (c.left r).get? c.tag = some opening.registration) ∨
    (∀ opening, c ≠ .register opening) ∧ c.left r = r := by
  cases c with
  | register opening =>
    refine .inl ⟨opening, rfl, ?_⟩
    rw [left, register_of_free free]
    exact get?_put_self _ _ r
  | ask M caller moment task =>
    refine .inr ⟨fun _ ↦ Call.noConfusion, ?_⟩
    cases task <;> exact congrArg Outcome.state (step_of_free free _)
  | send tag caller moment message =>
    refine .inr ⟨fun _ ↦ Call.noConfusion, ?_⟩
    cases message <;> exact congrArg Outcome.state (step_of_free free _)

/-- What is registered lies under the tag of its model. -/
def Keyed (r : Registry) : Prop :=
  ∀ tag registration, r.get? tag = some registration → registration.model.tag = tag

/-- Every call keeps what is registered under the tags of the models. -/
theorem Keyed.left (keyed : r.Keyed) (c : Call) : (c.left r).Keyed := by
  intro tag registration there
  by_cases own : tag = c.tag
  · subst own
    cases before : r.get? c.tag with
    | some found =>
      obtain ⟨st, kept⟩ := c.get?_left_of_registered before
      obtain rfl : found.withState st = registration := Option.some.inj (kept.symm.trans there)
      exact keyed c.tag found before
    | none =>
      obtain ⟨opening, rfl, put⟩ | ⟨-, same⟩ := c.get?_left_of_free before
      · obtain rfl : opening.registration = registration := Option.some.inj (put.symm.trans there)
        rfl
      · rw [same, before] at there
        cases there
  · rw [c.get?_left_ne own] at there
    exact keyed tag registration there

/-- In every registry that is reached, what is registered lies under the tag of its model. -/
theorem keyed_reached (calls : List Call) : (reached calls).Keyed :=
  List.foldlRecOn calls _ (fun _ _ there ↦ nomatch there) fun _ keyed c _ ↦ keyed.left c

end Registry

end VersionedStore
