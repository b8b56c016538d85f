import VersionedStore.Proofs.Registry.Message
import VersionedStore.Proofs.Service.Visits

/-!
# Runs of a registry

A registry starts empty. Services are registered, asked by their model and sent messages by their
tag, and the registry keeps the states that they leave. A service over a store in memory is
registered with one that has been filled by calls, and no call of the registry makes it
inconsistent.
-/

namespace VersionedStore

open Crud
open Memory (Consistent)
open Service (Task inMemory)

/-- A service over the store in memory, registered with a store. -/
def Registration.ofMemory (M : Model) (settings : Settings) (validate : M.Object → List Violation)
    (s : Memory M) : Registration :=
  ⟨M, Memory M, Service.inMemory M settings validate, s⟩

/-- A service as it is registered: a store in memory has been filled by calls. -/
structure Opening : Type 1 where
  registration : Registration
  filled : ∀ M settings validate s, registration = .ofMemory M settings validate s →
    ∃ calls, s = Memory.reached calls

/-- A service over an empty store in memory. -/
def Opening.empty (M : Model) (settings : Settings) (validate : M.Object → List Violation) :
    Opening where
  registration := .ofMemory M settings validate (.empty M)
  filled N settings' validate' s same := by
    rw [Registration.ofMemory, Registration.ofMemory, Registration.mk.injEq] at same
    obtain ⟨rfl, -, -, empty⟩ := same
    exact ⟨[], (eq_of_heq empty).symm⟩

namespace Registry

/-- A call of a registry. -/
inductive Call : Type 1 where
  | register (opening : Opening)
  | ask (M : Model) (caller : Caller) (moment : Moment) (task : Task M)
  | send (tag : String) (caller : Caller) (moment : Moment) (message : Message)

/-- The registry that a call leaves. -/
def Call.left : Call → Registry → Registry
  | .register opening, r => (r.register opening.registration).state
  | .ask M caller moment (.serve request), r =>
    (r.call M fun s ↦ s.serve caller moment request).state
  | .ask M caller _ .loadAll, r => (r.call M fun s ↦ s.loadAll caller).state
  | .send tag caller moment message, r => (r.send tag caller moment message).state

/-- The registry that is reached by calls, made one after the other. -/
def reached (calls : List Call) : Registry := calls.foldl (fun r c ↦ c.left r) .empty

end Registry

/-- If the registered service is one over the store in memory, the store is consistent. -/
def Registration.Sound (registration : Registration) : Prop :=
  ∀ M settings validate s, registration = .ofMemory M settings validate s → Consistent s

/-- A store in memory is registered in a consistent state. -/
theorem Opening.sound (opening : Opening) : opening.registration.Sound := by
  intro M settings validate s same
  obtain ⟨calls, rfl⟩ := opening.filled M settings validate s same
  exact Memory.consistent_reached calls

/-- What keeps stores in memory consistent keeps a registration sound. -/
theorem Registration.Sound.perform {α : Type} {registration : Registration}
    (sound : registration.Sound) (action : {σ : Type} → Service registration.model σ → Action σ α)
    (keeps : ∀ settings validate s, Consistent s →
      (action (inMemory registration.model settings validate)).Ends s fun t _ ↦ Consistent t) :
    (registration.perform fun s ↦ action s).state.Sound := by
  obtain ⟨model, State, service, state⟩ := registration
  intro M settings validate s same
  change Registration.mk model State service ((action service).run state).state = _ at same
  -- Whatever service is registered, it is this one that is over a store in memory.
  cases same
  exact keeps settings validate state (sound _ _ _ _ rfl)

/-- Serving a request keeps a store consistent. -/
theorem Service.consistent_serve {M : Model} {settings : Settings}
    {validate : M.Object → List Violation} {s : Memory M} (caller : Caller) (moment : Moment)
    (request : Service.Request M) (consistent : Consistent s) :
    ((inMemory M settings validate).serve caller moment request).Ends s fun t _ ↦ Consistent t :=
  (serves_serve settings validate caller moment request s).consistent consistent

/-- Services keep a property of registrations when they serve a request or list all objects. -/
structure Registration.Kept (P : Registration → Prop) : Prop where
  serve : ∀ (registration : Registration) caller moment request, P registration →
    P (registration.perform fun s ↦ s.serve caller moment request).state
  loadAll : ∀ (registration : Registration) caller, P registration →
    P (registration.perform fun s ↦ s.loadAll caller).state

/-- Services that keep a property when they serve a request keep it when they answer a message. -/
theorem Registration.Kept.answerMessage {P : Registration → Prop} (kept : Kept P)
    {registration : Registration} (h : P registration) (caller : Caller) (moment : Moment)
    (message : Message) :
    P (registration.perform fun s ↦ s.answerMessage caller moment message).state :=
  Service.ends_answerMessage (P := fun st _ ↦ P { registration with state := st })
    (fun request _ ↦ kept.serve registration caller moment request h) fun _ ↦ h

/-- Services keep stores in memory consistent. -/
theorem Registration.kept_sound : Kept Sound where
  serve _ caller moment request sound :=
    sound.perform (fun s ↦ s.serve caller moment request) fun _ _ _ consistent ↦
      Service.consistent_serve caller moment request consistent
  loadAll _ caller sound := sound.perform (fun s ↦ s.loadAll caller) fun _ _ _ consistent ↦ consistent

namespace Registry

variable {P : Registration → Prop} {r : Registry}

/-- Everything that is registered has a property. -/
def Each (P : Registration → Prop) (r : Registry) : Prop := ∀ e ∈ r.registrations, P e.2

/-- What is found under a tag has the property. -/
theorem Each.of_get? (each : r.Each P) {tag : String} {registration : Registration}
    (there : r.get? tag = some registration) : P registration :=
  each _ (Dictionary.mem_of_get? there)

/-- A registration with the property may be put into a registry. -/
theorem Each.put (each : r.Each P) {registration : Registration} (good : P registration)
    (tag : String) : (r.put tag registration).Each P := by
  intro e he
  rcases Dictionary.mem_of_mem_insert he with rfl | he
  · exact good
  · exact each e he

/-- A step that keeps the property of registrations keeps it everywhere. -/
theorem Each.step {α : Type} (each : r.Each P) (tag : String)
    {f : Registration → Outcome Registration (Except ServiceError α)}
    (keeps : ∀ registration, P registration → P (f registration).state) :
    (r.step tag f).state.Each P := by
  rw [Registry.step]
  cases there : r.get? tag with
  | none => exact each
  | some registration => exact each.put (keeps registration (each.of_get? there)) tag

/-- Asking a service by its model keeps a property that the service keeps. -/
theorem Each.call {α : Type} (each : r.Each P) {M : Model}
    {use : {σ : Type} → Service M σ → Action σ (Except ServiceError α)}
    (keeps : ∀ registration : Registration, P registration → ∀ same : registration.model = M,
      P (registration.perform fun s ↦ use (same ▸ s)).state) :
    (r.call M use).state.Each P := by
  refine each.step M.tag fun registration good ↦ ?_
  by_cases same : registration.model = M
  · rw [dif_pos same]
    exact keeps registration good same
  · rw [dif_neg same]
    exact good

/-- Every call keeps a property that services keep and that what is registered has. -/
theorem Each.left (each : r.Each P) (kept : Registration.Kept P) {c : Call}
    (opened : ∀ opening, c = .register opening → P opening.registration) : (c.left r).Each P := by
  cases c with
  | register opening =>
    rw [Call.left, Registry.register]
    cases r.get? opening.registration.model.tag with
    | none => exact each.put (opened opening rfl) _
    | some registration => exact each
  | send tag caller moment message =>
    have answered (registration : Registration) (good : P registration) :
        P (registration.perform fun s ↦ s.answerMessage caller moment message).state :=
      kept.answerMessage good caller moment message
    cases message <;> exact each.step tag answered
  | ask M caller moment task =>
    cases task with
    | serve request =>
      refine each.call fun registration good same ↦ ?_
      subst same
      exact kept.serve registration caller moment request good
    | loadAll =>
      refine each.call fun registration good same ↦ ?_
      subst same
      exact kept.loadAll registration caller good

/-- A step keeps the tags in order. -/
theorem ascending_step {α : Type} (order : Dictionary.Ascending r.registrations) (tag : String)
    (f : Registration → Outcome Registration (Except ServiceError α)) :
    Dictionary.Ascending (r.step tag f).state.registrations := by
  rw [step]
  cases r.get? tag with
  | none => exact order
  | some registration => exact Dictionary.ascending_insert order

private theorem ascending_left (order : Dictionary.Ascending r.registrations) (c : Call) :
    Dictionary.Ascending (c.left r).registrations := by
  cases c with
  | register opening =>
    rw [Call.left, register]
    cases r.get? opening.registration.model.tag with
    | none => exact Dictionary.ascending_insert order
    | some registration => exact order
  | ask M caller moment task => cases task <;> exact ascending_step order _ _
  | send tag caller moment message => cases message <;> exact ascending_step order _ _

/-- The tags of a registry are in order, and what is registered is sound. -/
structure Sound (r : Registry) : Prop where
  order : Dictionary.Ascending r.registrations
  each : r.Each Registration.Sound

/-- A store that is registered in a sound registry is consistent. -/
theorem Sound.consistent (sound : r.Sound) {tag : String} {M : Model} {settings : Settings}
    {validate : M.Object → List Violation} {s : Memory M}
    (there : r.get? tag = some (.ofMemory M settings validate s)) : Consistent s :=
  sound.each.of_get? there M settings validate s rfl

/-- Every call keeps a registry sound. -/
theorem Sound.left (sound : r.Sound) (c : Call) : (c.left r).Sound where
  order := ascending_left sound.order c
  each := sound.each.left Registration.kept_sound fun opening _ ↦ opening.sound

/-- Every registry that is reached is sound. -/
theorem sound_reached (calls : List Call) : (reached calls).Sound :=
  List.foldlRecOn calls _ ⟨Dictionary.ascending_nil, fun _ h ↦ nomatch h⟩
    fun _ sound c _ ↦ sound.left c

/-- A property that services keep, and that everything has as it is registered, everything has in
a registry that is reached. -/
theorem each_reached (kept : Registration.Kept P) (calls : List Call)
    (opened : ∀ opening, .register opening ∈ calls → P opening.registration) :
    (reached calls).Each P := by
  refine List.foldlRecOn calls _ (fun _ h ↦ nomatch h) fun r each c hc ↦ each.left kept ?_
  rintro opening rfl
  exact opened opening hc

/-- A message to a service over a store in memory is answered by the service, and the store that it
leaves is kept. -/
theorem send_ofMemory {tag : String} {M : Model} {settings : Settings}
    {validate : M.Object → List Violation} {s : Memory M}
    (there : r.get? tag = some (.ofMemory M settings validate s)) (caller : Caller)
    (moment : Moment) (message : Message) :
    let o := ((inMemory M settings validate).answerMessage caller moment message).run s
    send tag caller moment message r =
      ⟨o.value, r.put tag (.ofMemory M settings validate o.state), o.events⟩ :=
  send_of_registered there caller moment message

/-- Putting back what is registered changes nothing. -/
theorem Sound.put_of_get? (sound : r.Sound) {tag : String} {registration : Registration}
    (there : r.get? tag = some registration) : r.put tag registration = r :=
  congrArg Registry.mk (Dictionary.insert_of_get? sound.order there)

end Registry

end VersionedStore
