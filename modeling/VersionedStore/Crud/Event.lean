import VersionedStore.Crud.Operation
import VersionedStore.Failure
import VersionedStore.Log.Entry

/-!
# Events

What a store, a service or a registry reports while it serves a request. `entry` says how an event
appears in a log; `tag`, `oid?`, `requested?` and `performed?` say what it is about.
-/

namespace VersionedStore.Crud

open Log (Entry Level)

/-- Something that happened while a request was served. -/
inductive Event where
  /-- A store took in a new object. -/
  | inserted (tag oid : String) (numericId : Word 64)
  /-- A store found that an object would not change. -/
  | kept (tag oid : String) (version : Version)
  /-- A store replaced an object. -/
  | replaced (tag oid : String) (version : Version)
  /-- A load was answered. -/
  | loaded (tag oid : String) (performed : Option Performed) (correlation : Option String)
  /-- A write was rejected because the service only reads. -/
  | readOnly (tag oid : String) (requested : Requested)
  /-- A create was rejected for want of an OID. -/
  | missingOid (tag : String)
  /-- A new object was given an OID. -/
  | generatedOid (tag oid : String)
  /-- A create was rejected because the OID is taken. -/
  | occupied (tag oid : String)
  /-- A write was rejected because rules do not hold. -/
  | invalid (tag oid : String) (requested : Requested) (violations : Nat)
  /-- An update of a missing object goes on as a create. -/
  | converted (tag oid : String)
  /-- An update was rejected because there is no such object. -/
  | missing (tag oid : String)
  /-- A write was rejected because it collides with what is stored. -/
  | conflict (tag oid : String) (requested : Requested) (failure : Failure)
  /-- The store failed. -/
  | storeFailed (tag oid : String) (requested : Requested) (failure : Failure)
  /-- An object was created. -/
  | created (tag oid : String) (requested : Requested) (version : Version)
      (correlation : Option String)
  /-- An object was updated. -/
  | updated (tag oid : String) (version : Version) (correlation : Option String)
  /-- An update changed nothing. -/
  | notModified (tag oid : String)
  /-- An object was deleted. -/
  | deleted (tag oid : String) (correlation : Option String)
  /-- All objects were loaded. -/
  | loadedAll (tag : String) (count : Nat) (correlation : Option String)
  /-- A service was registered. -/
  | registered (tag : String)
  /-- A request was rejected because its OID does not parse. -/
  | malformedOid (tag oid : String) (requested : Requested)
  /-- A request was rejected because its body is no object of the model. -/
  | malformedBody (tag : String) (requested : Requested) (fault : Json.Fault)
  deriving DecidableEq

namespace Event

/-- The tag of the model that the event is about. -/
def tag : Event → String
  | .inserted tag .. | .kept tag .. | .replaced tag .. | .loaded tag .. | .readOnly tag ..
  | .missingOid tag | .generatedOid tag _ | .occupied tag _ | .invalid tag .. | .converted tag _
  | .missing tag _ | .conflict tag .. | .storeFailed tag .. | .created tag .. | .updated tag ..
  | .notModified tag _ | .deleted tag .. | .loadedAll tag .. | .registered tag
  | .malformedOid tag .. | .malformedBody tag .. => tag

/-- The text of the OID that the event is about. -/
def oid? : Event → Option String
  | .inserted _ oid _ | .kept _ oid _ | .replaced _ oid _ | .loaded _ oid .. | .readOnly _ oid _
  | .generatedOid _ oid | .occupied _ oid | .invalid _ oid .. | .converted _ oid | .missing _ oid
  | .conflict _ oid .. | .storeFailed _ oid .. | .created _ oid .. | .updated _ oid ..
  | .notModified _ oid | .deleted _ oid _ | .malformedOid _ oid _ => some oid
  | .missingOid _ | .loadedAll .. | .registered _ | .malformedBody .. => none

/-- The requested operation that the event is about. -/
def requested? : Event → Option Requested
  | .loaded .. => some .load
  | .missingOid _ | .occupied .. => some .create
  | .missing .. | .updated .. | .notModified .. => some .update
  | .deleted .. => some .delete
  | .readOnly _ _ requested | .invalid _ _ requested _ | .conflict _ _ requested _
  | .storeFailed _ _ requested _ | .created _ _ requested _ _ | .malformedOid _ _ requested
  | .malformedBody _ requested _ => some requested
  | .inserted .. | .kept .. | .replaced .. | .generatedOid .. | .converted .. | .loadedAll ..
  | .registered _ => none

/-- The performed operation that the event tells. -/
def performed? : Event → Option Performed
  | .loaded _ _ performed _ => performed
  | .created .. => some .created
  | .updated .. => some .updated
  | .deleted .. => some .deleted
  | .notModified .. => some .notModified
  | _ => none

/-- How important the event is. -/
def level : Event → Level
  | .inserted .. | .kept .. | .replaced .. | .loaded .. | .generatedOid .. | .notModified ..
  | .loadedAll .. | .registered _ => .debug
  | .converted .. | .created .. | .updated .. | .deleted .. => .info
  | .readOnly .. | .missingOid _ | .occupied .. | .invalid .. | .missing .. | .conflict ..
  | .storeFailed .. | .malformedOid .. | .malformedBody .. => .warn

/-- The part of the program that reports the event. -/
def target : Event → String
  | .inserted .. | .kept .. | .replaced .. => "r01f_domain::persist::inmemory_store"
  | .registered _ | .malformedOid .. | .malformedBody .. => "r01f_application::registry"
  | _ => "r01f_application::crud_service"

/-- The message of the event. -/
def message : Event → String
  | .inserted .. => "persisted"
  | .kept .. => "unchanged"
  | .replaced .. => "merged"
  | .loaded .. => "load"
  | .readOnly .. => "rejected: read-only mode"
  | .missingOid _ => "rejected: missing oid"
  | .generatedOid .. => "generated oid"
  | .occupied .. => "rejected: already exists"
  | .invalid .. => "rejected: validation"
  | .converted .. => "update of missing model object converted to create"
  | .missing .. => "rejected: not found"
  | .conflict .. => "rejected: conflict"
  | .storeFailed .. => "store failure"
  | .created .. => "persisted"
  | .updated .. => "merged"
  | .notModified .. => "unchanged"
  | .deleted .. => "removed"
  | .loadedAll .. => "load all"
  | .registered _ => "crud service registered"
  | .malformedOid .. => "rejected: malformed oid"
  | .malformedBody .. => "rejected: malformed body"

/-- An option as log lines show it. -/
def optionText (o : Option String) : String :=
  match o with
  | some s => "Some(" ++ s ++ ")"
  | none => "None"

/-- The values behind tag, OID and requested operation. -/
def details : Event → List (String × Log.Value)
  | .inserted _ _ numericId => [("numeric_id", .number numericId.val)]
  | .kept _ _ version | .replaced _ _ version => [("version", .shown version.text)]
  | .loaded _ _ performed correlation =>
    ("performed", .shown (optionText (performed.map Performed.name))) :: correlated correlation
  | .invalid _ _ _ violations => [("errors", .number violations)]
  | .conflict _ _ _ failure | .storeFailed _ _ _ failure => [("error", .shown failure.message)]
  | .created _ _ _ version correlation =>
    ("performed", .string (Performed.text .created)) :: ("version", .shown version.text) ::
      correlated correlation
  | .updated _ _ version correlation =>
    ("performed", .string (Performed.text .updated)) :: ("version", .shown version.text) ::
      correlated correlation
  | .notModified .. => [("performed", .string (Performed.text .notModified))]
  | .deleted _ _ correlation =>
    ("performed", .string (Performed.text .deleted)) :: correlated correlation
  | .loadedAll _ count correlation => ("count", .number count) :: correlated correlation
  | .malformedBody _ _ fault => [("error", .shown fault.message)]
  | _ => []
where
  /-- The correlation of the request, where it has one. -/
  correlated (correlation : Option String) : List (String × Log.Value) :=
    (correlation.map fun c ↦ ("correlation_id", .string c)).toList

/-- The OID as the event records it. -/
def oidValue (e : Event) (oid : String) : Log.Value :=
  match e with
  | .readOnly .. | .conflict .. | .storeFailed .. | .malformedOid .. => .string oid
  | _ => .shown oid

/-- The event as an entry of a log. -/
def entry (e : Event) : Entry where
  level := e.level
  target := e.target
  message := e.message
  fields := ("model_type", .string e.tag) ::
    ((e.oid?.map fun oid ↦ ("oid", e.oidValue oid)).toList ++
      (e.requested?.map fun requested ↦ ("requested", .shown requested.text)).toList ++ e.details)

/-- Every entry tells the tag. -/
theorem field?_model_type (e : Event) : e.entry.field? "model_type" = some (.string e.tag) := by
  simp [entry, Entry.field?]

/-- An entry tells the OID whenever the event is about one. -/
theorem field?_oid {e : Event} {oid : String} (h : e.oid? = some oid) :
    e.entry.field? "oid" = some (e.oidValue oid) := by
  simp [entry, Entry.field?, h]

end Event

end VersionedStore.Crud
