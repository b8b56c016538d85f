import VersionedStore.Registry

/-!
# Scripts

A script makes requests of registered services one after the other and logs what comes of them. It
breaks off at an error.
-/

namespace VersionedStore.Showcase

open Crud

/-- The services, and what has been logged so far. -/
structure Scene : Type 1 where
  registry : Registry
  log : List Log.Entry

/-- Something to do with services, and what it gives. -/
def Script (α : Type) : Type 1 := Scene → Except ServiceError α × Scene

namespace Script

variable {α β : Type}

/-- Do nothing. -/
def done (a : α) : Script α := fun s ↦ (.ok a, s)

/-- One script and then another that knows what the first one gave. -/
def andThen (x : Script α) (f : α → Script β) : Script β := fun s ↦
  match x s with
  | (.ok a, s) => f a s
  | (.error e, s) => (.error e, s)

instance : Monad Script where
  pure := done
  bind := andThen

/-- Log an entry. -/
def say (e : Log.Entry) : Script Unit := fun s ↦ (.ok (), { s with log := s.log ++ [e] })

/-- Make a request; its events are logged. -/
def ask (request : Registry → RegistryOutcome α) : Script α := fun s ↦
  let o := request s.registry
  (o.value, ⟨o.state, s.log ++ o.events.map Event.entry⟩)

/-- The registered services. -/
def registry (use : Registry → α) : Script α := fun s ↦ (.ok (use s.registry), s)

end Script

end VersionedStore.Showcase
