import VersionedStore.Dictionary
import VersionedStore.Service.Basic

/-!
# The registry of services

Services of any models, each under the tag of its model and with the state of its store. The first
service under a tag stays. A service is reached by its model, which must be the registered one, or
by its tag with JSON in place of objects.
-/

namespace VersionedStore

open Crud

/-- A registered service with the state of its store. -/
structure Registration : Type 1 where
  model : Model
  State : Type
  service : Service model State
  state : State

namespace Registration

/-- Run an action of the registered service. -/
def perform {α : Type} (r : Registration) (action : Service r.model r.State → Action r.State α) :
    Outcome Registration α :=
  let o := (action r.service).run r.state
  ⟨o.value, { r with state := o.state }, o.events⟩

end Registration

/-- Registrations in the order of their tags. -/
structure Registry : Type 1 where
  registrations : List (String × Registration)

/-- A step of the registry and what it gives. -/
abbrev RegistryOutcome (α : Type) : Type 1 := Outcome Registry (Except ServiceError α)

/-- An answer with the documents of objects in place of the objects. -/
def Reply.toDocument {α : Type} [Coded α] (r : Reply α) : Reply Document :=
  r.map fun a ↦ a.map VersionedStore.toDocument

/-- Serve a request that names an OID by its text. -/
def Service.withOid {M : Model} {σ : Type} (requested : Requested) (text : String)
    (serve : M.Oid → Action σ (Reply M.Object)) : Action σ (Reply Document) :=
  match M.oidKind.ofText? text with
  | some oid => return (← serve oid).toDocument
  | none =>
    answering (.malformedOid M.tag text requested) <| .ok <| .rejected <|
      .make requested M.tag text (.badRequest ("malformed " ++ M.tag ++ " oid"))

/-- The operation that saving a JSON value asks for, as its version tells. -/
def requestedBySaving (v : Json) : Requested :=
  match v.get? "entity_version" with
  | some (.int n) => if 0 < n ∧ n ≤ 0xffffffffffffffff then .update else .create
  | _ => .create

namespace Service

variable {M : Model} {σ : Type}

/-- Load the object under the OID with a text. -/
def loadJson (s : Service M σ) (caller : Caller) (oid : String) : Action σ (Reply Document) :=
  withOid .load oid (s.load caller)

/-- Delete the object under the OID with a text. -/
def deleteJson (s : Service M σ) (caller : Caller) (oid : String) : Action σ (Reply Document) :=
  withOid .delete oid (s.delete caller)

/-- Save the object that a document stands for. -/
def saveJson (s : Service M σ) (caller : Caller) (moment : Moment) (d : Document) :
    Action σ (Reply Document) :=
  match ofJson M.Object d.json with
  | .ok m => return (← s.save caller moment m).toDocument
  | .error fault =>
    let requested := requestedBySaving d.json
    let oid := (d.json.get? "oid").bind Json.asString?
    answering (.malformedBody M.tag requested fault) <| .ok <| .rejected <|
      .make requested M.tag oid
        (.badRequest ("malformed " ++ M.tag ++ " body: " ++ fault.message))

end Service

namespace Registry

/-- No services. -/
def empty : Registry := ⟨[]⟩

instance : Inhabited Registry := ⟨empty⟩

/-- The registration under a tag. -/
def get? (tag : String) (r : Registry) : Option Registration := Dictionary.get? tag r.registrations

/-- The registry with a registration under a tag. -/
def put (tag : String) (registration : Registration) (r : Registry) : Registry :=
  ⟨Dictionary.insert tag registration r.registrations⟩

/-- The registered tags in their order. -/
def tags (r : Registry) : List String := Dictionary.keys r.registrations

/-- Is there a service under a tag? -/
def isRegistered (tag : String) (r : Registry) : Bool := (r.get? tag).isSome

/-- Register a service with the state of its store, unless its tag is taken. -/
def register (registration : Registration) (r : Registry) : RegistryOutcome Unit :=
  let tag := registration.model.tag
  match r.get? tag with
  | some _ => ⟨.error (.alreadyRegistered tag), r, []⟩
  | none => ⟨.ok (), r.put tag registration, [.registered tag]⟩

/-- Take a step of the registration under a tag. -/
def step {α : Type} (tag : String) (f : Registration → Outcome Registration (Except ServiceError α))
    (r : Registry) : RegistryOutcome α :=
  match r.get? tag with
  | none => ⟨.error (.notRegistered tag), r, []⟩
  | some registration =>
    let o := f registration
    ⟨o.value, r.put tag o.state, o.events⟩

/-- The service of a model; the service under the model's tag must be one for this model. -/
def service? (M : Model) (r : Registry) : Except ServiceError (Σ σ : Type, Service M σ) :=
  match r.get? M.tag with
  | none => .error (.notRegistered M.tag)
  | some registration =>
    if h : registration.model = M then .ok ⟨registration.State, h ▸ registration.service⟩
    else .error (.typeMismatch M.name registration.model.name)

/-- Call the service of a model; the service under the model's tag must be one for this model. -/
def call {α : Type} (M : Model)
    (use : {σ : Type} → Service M σ → Action σ (Except ServiceError α)) :
    Registry → RegistryOutcome α :=
  step M.tag fun registration ↦
    if h : registration.model = M then registration.perform fun s ↦ use (h ▸ s)
    else ⟨.error (.typeMismatch M.name registration.model.name), registration, []⟩

/-- Load an object by tag and OID text. -/
def loadJson (tag : String) (caller : Caller) (oid : String) :
    Registry → RegistryOutcome (Answer Document) :=
  step tag fun registration ↦ registration.perform fun s ↦ s.loadJson caller oid

/-- Delete an object by tag and OID text. -/
def deleteJson (tag : String) (caller : Caller) (oid : String) :
    Registry → RegistryOutcome (Answer Document) :=
  step tag fun registration ↦ registration.perform fun s ↦ s.deleteJson caller oid

/-- Save the object that a document stands for, by tag. -/
def saveJson (tag : String) (caller : Caller) (moment : Moment) (d : Document) :
    Registry → RegistryOutcome (Answer Document) :=
  step tag fun registration ↦ registration.perform fun s ↦ s.saveJson caller moment d

end Registry

end VersionedStore
