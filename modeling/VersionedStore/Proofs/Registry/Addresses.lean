import VersionedStore.Proofs.Memory.Content
import VersionedStore.Proofs.Registry.Tags
import VersionedStore.Proofs.Relational.Addresses
import VersionedStore.Proofs.Service.Addresses
import VersionedStore.Proofs.Service.Effect
import VersionedStore.Proofs.Text.Spellings

/-!
# OID texts address the objects of their OIDs

A text that is read as an OID is as good as the OID: loading and deleting by the text shows the
documents of what loading and deleting by the OID gives, and does the same to the registry. Every
body that is returned names the OID of the request in one of its texts. A text that is no OID is
rejected and does nothing.
-/

namespace VersionedStore

open Crud
open Service (Points PointsReply Request inMemory points_serve)

/-- The document of an object names the object's OID by its text. -/
theorem Model.Object.get?_oid {M : Model} {m : M.Object} {oid : M.Oid} (own : m.oid = some oid) :
    (toDocument m).json.get? M.names.oid = some (.str (M.oidKind.textOf oid)) := by
  -- The OID is written first.
  have written : (M.names.oid, (Schema.optional M.oidKind.schema).encode m.oid) ∈
      M.fields.encode (Coded.toValue m) := List.mem_cons_self
  have text : (Schema.optional M.oidKind.schema).encode m.oid =
      .str (M.oidKind.textOf oid) := by
    rw [own]
    exact M.oidKind.encode_oid oid
  rw [text] at written
  exact Json.get?_sortMembers m.nodup_keys written

namespace Registration

/-- The store of a registered service gives objects under their own OIDs and goes on to. -/
def Addresses (registration : Registration) : Prop :=
  ∃ good, registration.service.store.Addresses good ∧ good registration.state

private theorem kept_addresses : Kept Addresses where
  serve _ caller moment request := by
    rintro ⟨good, addresses, kept⟩
    exact ⟨good, addresses, (points_serve addresses kept caller moment request).1⟩
  loadAll _ caller := by
    rintro ⟨good, addresses, kept⟩
    exact ⟨good, addresses, Service.keeps_loadAll addresses kept caller⟩

/-- A service over a table whose rows are their own, behind an engine whose statements are run at
once or fail, gives objects under their own OIDs. -/
theorem addresses_ofTable {M : Model} {σ : Type} {engine : Engine σ}
    (atomic : Atomic engine) {u : σ} (own : Relational.Own atomic M u) (settings : Settings)
    (validate : M.Object → List Violation) :
    Addresses ⟨M, σ, ⟨Relational.store M engine, settings, validate⟩, u⟩ :=
  ⟨_, Relational.addresses_store atomic M, own⟩

end Registration

/-- A service over a store in memory gives objects under their own OIDs. -/
theorem Opening.addresses_ofMemory (opening : Opening) {M : Model} {settings : Settings}
    {validate : M.Object → List Violation} {s : Memory M}
    (same : opening.registration = .ofMemory M settings validate s) :
    opening.registration.Addresses := by
  have consistent := opening.sound M settings validate s same
  rw [same]
  exact ⟨_, Memory.addresses_store M, consistent⟩

/-- What a load answers after a document was shown: the document, unless its object was deleted. -/
def Crud.Success.again (tag text : String) (success : Success Document) : Answer Document :=
  if success.performed = .deleted then .rejected (.make .load tag text .notFound)
  else .loaded success.object

namespace Service

variable {M : Model} {settings : Settings} {validate : M.Object → List Violation}
  {σ : Type} {good : σ → Prop}

private theorem names_answerMessage {s : Service M σ} {st : σ} (addresses : s.store.Addresses good)
    (kept : good st) (caller : Caller) (moment : Moment) (message : Message) :
    (s.answerMessage caller moment message).Ends st fun _ reply ↦
      ∀ success, reply = .ok (.done success) → ∃ request, message.request? M = some request ∧
        success.object.json.get? M.names.oid =
          some (.str (M.oidKind.textOf (request.oid moment))) := by
  refine ends_answerMessage (fun request read success shown ↦ ?_) fun _ _ shown ↦ nomatch shown
  obtain ⟨served, reply, rfl⟩ := Reply.done_of_toDocument shown
  have own := (points_serve addresses kept caller moment request).2 served reply
  exact ⟨request, read, Model.Object.get?_oid own⟩

private theorem again_answerMessage {s : Memory M} (consistent : Memory.Consistent s)
    (caller : Caller)
    (moment : Moment) (message : Message) :
    ((inMemory M settings validate).answerMessage caller moment message).Ends s fun t reply ↦
      ∀ success, reply = .ok (.done success) → ∃ oid,
        success.object.json.get? M.names.oid = some (.str (M.oidKind.textOf oid)) ∧
        ∀ next, Reply.toDocument (((inMemory M settings validate).load next oid).run t).value =
          .ok (success.again M.tag (M.oidKind.textOf oid)) := by
  refine ends_answerMessage (fun request _ success shown ↦ ?_) fun _ _ shown ↦ nomatch shown
  have accounts : ((inMemory M settings validate).serve caller moment request).Ends s
      (AccountsReply (request.oid moment) s) := ends_serve caller moment request consistent
  obtain ⟨served, reply, rfl⟩ := Reply.done_of_toDocument shown
  rw [Action.Ends, reply] at accounts
  obtain ⟨own, found⟩ := Memory.get?_of_accounts consistent.keys accounts
  refine ⟨request.oid moment, Model.Object.get?_oid own, fun next ↦ ?_⟩
  rw [run_load, found]
  obtain ⟨_, performed, _⟩ := served
  cases performed <;> rfl

end Service

namespace Registry

variable {r : Registry} {tag : String} {registration : Registration}

/-- An outcome with the documents of objects in place of the objects. -/
def documented {α : Type} [Coded α] (o : RegistryOutcome (Answer α)) :
    RegistryOutcome (Answer Document) :=
  ⟨Reply.toDocument o.value, o.state, o.events⟩

/-- A message that stands for a request does what the service does that is asked to serve it. -/
theorem send_of_request (keyed : r.Keyed) (there : r.get? tag = some registration)
    {message : Message} {request : Request registration.model}
    (read : message.request? registration.model = some request) (caller : Caller)
    (moment : Moment) :
    r.send tag caller moment message =
      documented (r.call registration.model fun s ↦ s.serve caller moment request) := by
  obtain rfl := keyed tag registration there
  rw [send_of_registered there, call_of_registered there, Service.answerMessage_of_request read]
  simp only [documented, Action.run_bind, Action.run_pure, List.append_nil]
  rfl

private theorem malformed_oid (sound : r.Sound) (keyed : r.Keyed)
    (there : r.get? tag = some registration)
    {t : String} (unread : registration.model.oidKind.ofText? t = none) (caller : Caller) :
    let rejected (requested : Requested) : RegistryOutcome (Answer Document) :=
      ⟨.ok (.rejected (.make requested tag t (.badRequest ("malformed " ++ tag ++ " oid")))), r,
        [.malformedOid tag t requested]⟩
    r.loadJson tag caller t = rejected .load ∧ r.deleteJson tag caller t = rejected .delete := by
  obtain rfl := keyed tag registration there
  intro rejected
  have kept : r.put registration.model.tag registration = r := sound.put_of_get? there
  constructor
  · rw [loadJson, step_of_registered there]
    simp only [Registration.perform, Service.loadJson, Service.withOid, unread]
    exact congrArg (Outcome.mk _ · _) kept
  · rw [deleteJson, step_of_registered there]
    simp only [Registration.perform, Service.deleteJson, Service.withOid, unread]
    exact congrArg (Outcome.mk _ · _) kept

/-- Texts address the objects of their OIDs. In every registry that is reached by calls, a text that
is read as an OID, which is any of its spellings, loads and deletes as the OID itself does when the
service is asked by its model: the answer is the same with documents in place of objects, and so are
the registry and the events that are left. The text of an OID is read as the OID, and is what JSON
shows of it. A text that is no OID is answered by a bad request that names the operation and, unless
it is empty, the text, and the registry stays. What is shown in answer to any message names the OID
that the message is about, as long as the stores give objects under their own OIDs; and a service
over a store in memory finds it again by every text that is read as this OID. -/
theorem texts_address (calls : List Call) {tag : String} {registration : Registration}
    (there : (reached calls).get? tag = some registration) (caller : Caller) :
    let M := registration.model
    let r := reached calls
    (∀ t oid, M.oidKind.ofText? t = some oid →
      r.loadJson tag caller t = documented (r.call M fun s ↦ s.load caller oid) ∧
      r.deleteJson tag caller t = documented (r.call M fun s ↦ s.delete caller oid)) ∧
    (∀ t oid, M.oidKind.ofText? t = some oid ↔ M.oidKind.Spells t oid) ∧
    (∀ oid, M.oidKind.ofText? (M.oidKind.textOf oid) = some oid ∧
      M.oidKind.schema.encode oid = .str (M.oidKind.textOf oid)) ∧
    (∀ t, M.oidKind.ofText? t = none →
      let rejected (requested : Requested) : RegistryOutcome (Answer Document) :=
        ⟨.ok (.rejected (.make requested tag t (.badRequest ("malformed " ++ tag ++ " oid")))), r,
          [.malformedOid tag t requested]⟩
      r.loadJson tag caller t = rejected .load ∧ r.deleteJson tag caller t = rejected .delete) ∧
    ((∀ opening, .register opening ∈ calls → opening.registration.Addresses) →
      ∀ moment message success, (r.send tag caller moment message).value = .ok (.done success) →
        ∃ request, message.request? M = some request ∧
          success.object.json.get? M.names.oid =
            some (.str (M.oidKind.textOf (request.oid moment)))) ∧
    ∀ N settings validate s, registration = .ofMemory N settings validate s →
      ∀ moment message success, (r.send tag caller moment message).value = .ok (.done success) →
        ∃ oid, success.object.json.get? N.names.oid = some (.str (N.oidKind.textOf oid)) ∧
          ∀ t, N.oidKind.ofText? t = some oid → ∀ next,
            ((r.send tag caller moment message).state.loadJson tag next t).value =
              .ok (success.again tag (N.oidKind.textOf oid)) := by
  intro M r
  have sound : r.Sound := sound_reached calls
  have keyed : r.Keyed := keyed_reached calls
  refine ⟨fun t oid read ↦ ?_, fun t oid ↦ OidKind.ofText?_eq_some_iff,
    fun oid ↦ ⟨M.oidKind.ofText?_textOf oid, M.oidKind.encode_oid oid⟩,
    fun t unread ↦ malformed_oid sound keyed there unread caller,
    fun opened moment message success shown ↦ ?_, ?_⟩
  · have load : (Message.load t).request? M = some (.load oid) := congrArg (Option.map _) read
    have delete : (Message.delete t).request? M = some (.delete oid) := congrArg (Option.map _) read
    exact ⟨send_of_request keyed there load caller ⟨.epoch, Schema.initial .uuid⟩,
      send_of_request keyed there delete caller ⟨.epoch, Schema.initial .uuid⟩⟩
  · obtain ⟨good, addresses, kept⟩ :=
      (each_reached Registration.kept_addresses calls opened).of_get? there
    rw [send_of_registered there] at shown
    exact Service.names_answerMessage addresses kept caller moment message success shown
  · rintro N settings validate s rfl moment message success shown
    obtain rfl := keyed tag _ there
    have consistent : Memory.Consistent s := sound.consistent there
    rw [send_ofMemory there] at shown ⊢
    obtain ⟨oid, named, found⟩ :=
      Service.again_answerMessage consistent caller moment message success shown
    refine ⟨oid, named, fun t read next ↦ ?_⟩
    have load : (Message.load t).request? N = some (.load oid) := congrArg (Option.map _) read
    show ((r.put _ _).send _ next moment (.load t)).value = _
    rw [send_ofMemory (get?_put_self _ _ r), Service.answerMessage_of_request load]
    exact found next

/-- The UUID of a customer. -/
def customerId : Uuid :=
  ⟨[6, 15, 10, 4, 5, 9, 14, 10, 14, 14, 8, 10, 3, 12, 10, 4, 8, 9, 4, 14, 13, 11, 7, 7, 14, 1, 6, 0,
    3, 5, 5, 14].map Text.HexDigit.ofNat, rfl⟩

/-- The customer as stored for an anonymous caller at the epoch. -/
def storedCustomer : Catalogue.customer.Object :=
  { Model.Object.initial Catalogue.customer with
    oid := some customerId
    numericId := some Version.first.number
    version := .first
    tracking := Tracking.empty.stampCreated none .epoch }

/-- A customer that was saved is loaded by another spelling of the OID. -/
theorem texts_address_customer :
    let calls : List Call := [.register (.empty Catalogue.customer .standard fun _ ↦ [])]
    let moment : Moment := ⟨.epoch, Schema.initial .uuid⟩
    let message : Message := .save
      (Document.ofJson (.obj [("oid", .str "6FA459EAEE8A3CA4894EDB77E160355E")]))
    let saved := (reached calls).send "customer" .anonymous moment message
    (reached calls).get? "customer" =
      some (.ofMemory Catalogue.customer .standard (fun _ ↦ []) (.empty _)) ∧
    saved.value = .ok (.created .create (toDocument storedCustomer)) ∧
    (saved.state.loadJson "customer" .anonymous
      "urn:uuid:6FA459EA-ee8a-3ca4-894e-DB77E160355E").value =
        .ok (.loaded (toDocument storedCustomer)) := by
  intro calls moment message saved
  have there : (reached calls).get? "customer" =
      some (.ofMemory Catalogue.customer .standard (fun _ ↦ []) (.empty _)) := rfl
  have answered : saved.value = .ok (.created .create (toDocument storedCustomer)) := by
    decide +kernel
  obtain ⟨-, -, -, -, -, again⟩ := texts_address calls there .anonymous
  obtain ⟨oid, named, found⟩ := again Catalogue.customer .standard (fun _ ↦ []) (.empty _) rfl
    moment message _ answered
  have stored : storedCustomer.oid = some customerId := rfl
  have own := Model.Object.get?_oid stored
  obtain rfl : oid = customerId := OidKind.textOf_injective
    (Json.str.inj (Option.some.inj (named.symm.trans own)))
  have read : Uuid.read? "urn:uuid:6FA459EA-ee8a-3ca4-894e-DB77E160355E" =
      some customerId := by decide +kernel
  exact ⟨there, answered, found _ read .anonymous⟩

end Registry

end VersionedStore
