import VersionedStore.Proofs.Http.ReadBack
import VersionedStore.Proofs.Service.Counterparts

/-!
# Responses that nothing was modified

A response that nothing was modified need not repeat the object. Who sent the update then keeps what
was sent, which may differ from what is stored in numeric id and tracking. It is a counterpart of
the stored object all the same, so whoever goes on with it fares as with the stored object. Only
where a model's JSON gives the tracking another name may the contents of the two differ.
-/

namespace VersionedStore

open Crud

namespace Service

open Memory (Meets)

variable {M : Model} {settings : Settings} {validate : M.Object → List Violation} {caller : Caller}
  {moment : Moment} {m stored : M.Object} {s : Memory M}

/-- An update that reports that nothing was modified has met the stored object with the content of
the stamped one, and leaves the store as it was. -/
theorem meets_of_notModified
    (reported : (((inMemory M settings validate).update caller moment.now m).run s).value =
      .ok (.notModified .update stored)) :
    (∃ oid, Meets s (m.stampedChanged caller moment.now) oid stored ∧
      stored.sameContent (m.stampedChanged caller moment.now) = true) ∧
    (((inMemory M settings validate).update caller moment.now m).run s).state = s := by
  cases given : m.oid with
  | none =>
    rw [update, given] at reported
    cases reported
  | some oid =>
    have sent : (Request.update m).submitted? moment = some m := by
      rw [Request.submitted?, Model.Object.identified_of_oid given]
    have serves : ((inMemory M settings validate).update caller moment.now m).Ends s
        (Serves validate caller moment s (.update m)) := serves_update rfl s
    rw [Action.Ends, reported] at serves
    obtain ⟨meets, same, left⟩ := serves.met_of_notModified sent
    exact ⟨⟨_, meets, same⟩, left⟩

end Service

namespace Http

open Model.Object (Counterparts)
open Service (inMemory)

variable {M : Model}

private theorem isBlankText_jsonText (m : M.Object) : Text.isBlankText (jsonText m) = false := by
  have text : jsonText m =
      String.ofList ('\x7b' :: Json.firstMemberChars (M.fields.encode (Coded.toValue m))) :=
    congrArg String.ofList (Json.chars_obj _)
  rw [text, Text.isBlankText, String.toList_ofList]
  rfl

/-- A blank response that nothing was modified is read as an answer with what was sent. -/
theorem toUpdateAnswer_of_blank {blank : String} (empty : Text.isBlankText blank = true)
    (tag : String) (oid : Option String) (m : M.Object) :
    (Response.mk Status.notModified.code blank).toUpdateAnswer tag oid m =
      .notModified .update m :=
  if_pos ⟨Status.ofCode?_code .notModified, empty⟩

/-- The response that nothing was modified is read as the answer that it serves. -/
theorem toUpdateAnswer_of_served {stored : M.Object}
    (readable : Json.Readable depthLimit (toJson stored)) (tag : String) (oid : Option String)
    (m : M.Object) :
    (Response.ofAnswer (.notModified .update stored)).toUpdateAnswer tag oid m =
      .notModified .update stored := by
  have solid : ¬(Status.ofCode? Status.notModified.code = some .notModified ∧
      Text.isBlankText (jsonText stored) = true) := by
    rw [isBlankText_jsonText]
    exact fun h ↦ Bool.false_ne_true h.2
  have performs : performedBy .update .notModified = some .notModified := rfl
  exact (if_neg solid).trans <|
    toAnswer_of_performed performs (ofJsonText_jsonText M.faithful_schema readable) tag oid

/-- A blank response that nothing was modified and one that repeats the stored object are
interchangeable. Whenever a service over a store in memory reports that an update modified nothing,
the two are read as answers to an update that modified nothing, with the object that was sent and
the stored one. These have the same OID and version, and the same content apart from the tracking;
all of the content exactly where it leaves the tracking out, or the tracking that was sent is the
stored one; and the same own fields, unless contents hide some. Given the same own fields, either of
the two is updated alike from then on: by every service whose rules look neither at numeric id nor
at tracking, for every caller and time, and whatever has become of the store. -/
theorem unmodified_interchangeable (calls : List (Store.Call M)) {settings : Settings}
    {validate : M.Object → List Violation} {caller : Caller} {moment : Moment}
    {m stored : M.Object}
    (reported : (((inMemory M settings validate).update caller moment.now m).run
      (Memory.reached calls)).value = .ok (.notModified .update stored))
    (plain : (toJson m).isPlain = true) (readable : Json.Readable depthLimit (toJson stored))
    {blank : String} (empty : Text.isBlankText blank = true) (tag : String)
    (oid : Option String) :
    ((Response.mk Status.notModified.code blank).toUpdateAnswer tag oid m =
        .notModified .update m ∧
      (Response.ofAnswer (.notModified .update stored)).toUpdateAnswer tag oid m =
        .notModified .update stored) ∧
    ((Memory.reached calls).Holds stored ∧
      (((inMemory M settings validate).update caller moment.now m).run
        (Memory.reached calls)).state = Memory.reached calls) ∧
    (m.oid = stored.oid ∧ m.version = stored.version ∧
      m.content.without [M.names.tracking] = stored.content.without [M.names.tracking] ∧
      (m.content = stored.content ↔ M.LeavesOutTracking ∨ m.tracking = stored.tracking) ∧
      (M.ShowsOwn → m.own = stored.own)) ∧
    ∀ (more : List (Store.Call M)) own settings validate caller now,
      (∀ n p : M.Object, n.oid = p.oid → n.version = p.version → n.own = p.own →
        validate n = validate p) →
      ((inMemory M settings validate).update caller now { m with own := own }).run
          (Memory.reached more) =
        ((inMemory M settings validate).update caller now { stored with own := own }).run
          (Memory.reached more) := by
  obtain ⟨⟨key, meets, same⟩, left⟩ := Service.meets_of_notModified reported
  have fits := (Memory.consistent_reached calls).fits_of_get? meets.there
  have oids : m.oid = stored.oid := meets.own.trans fits.own.symm
  have versions : m.version = stored.version := meets.agrees.symm
  have content : (m.stampedChanged caller moment.now).content = stored.content :=
    (Model.Object.content_of_same readable.plain (Model.Object.isPlain_withTracking plain _)
      same).symm
  have alike : m.Counterparts stored :=
    Model.Object.counterparts_of_content oids versions content
  refine ⟨⟨toUpdateAnswer_of_blank empty tag oid m, toUpdateAnswer_of_served readable tag oid m⟩,
    ⟨⟨key, fits.own, meets.there⟩, left⟩, ⟨oids, versions, ?_, ?_, fun shows ↦ ?_⟩,
    fun more own settings validate caller now blind ↦ ?_⟩
  · rw [← content]
    exact (Model.Object.content_withTracking_apart m _).symm
  · by_cases aside : M.LeavesOutTracking
    · refine iff_of_true ?_ (.inl aside)
      rw [← content]
      exact (Model.Object.content_withTracking aside m _).symm
    · refine ⟨fun same ↦ .inr (Model.Object.tracking_of_content aside same), fun tracked ↦ ?_⟩
      -- What was sent with the stored tracking is not changed by the stamp.
      have stamp : m.tracking.stampUpdated caller.user moment.now = m.tracking :=
        (Model.Object.tracking_of_content aside content).trans (tracked.resolve_left aside).symm
      have unstamped : m.stampedChanged caller moment.now = m := by
        rw [Model.Object.stampedChanged, stamp]
      rw [← content, unstamped]
  · have own : (m.stampedChanged caller moment.now).own = stored.own :=
      Model.Object.own_of_content shows content
    exact own
  · exact Service.run_update_congr (Memory.consistent_reached more) (alike.withOwn own own) rfl
      (blind _ _ oids versions rfl)

/-- A note that is sent with a made-up numeric id is not the stored one, but updated alike. -/
theorem unmodified_interchangeable_notes :
    let calls := [.persist (Memory.submitted Memory.noteA "title" .unsaved)]
    let sent := Memory.submitted Memory.noteA "title" .first
    let stored : Catalogue.note.Object := { sent with numericId := some (Word.zero 64).after }
    let service := Service.inMemory Catalogue.note .standard fun _ ↦ []
    let moment : Moment := ⟨.epoch, ⟨List.replicate 32 0, by decide⟩⟩
    ((service.update .anonymous moment.now sent).run (Memory.reached calls)).value =
      .ok (.notModified .update stored) ∧
    (toJson sent).isPlain = true ∧ Json.Readable depthLimit (toJson stored) ∧
    Text.isBlankText "" = true ∧ sent ≠ stored ∧ sent.own = stored.own ∧
    ∀ title : String,
      (service.update .anonymous moment.now { sent with own := (title, ()) }).run
          (Memory.reached calls) =
        (service.update .anonymous moment.now { stored with own := (title, ()) }).run
          (Memory.reached calls) := by
  intro calls sent stored service moment
  have reported : ((service.update .anonymous moment.now sent).run (Memory.reached calls)).value =
      .ok (.notModified .update stored) := by decide +kernel
  have plain : (toJson sent).isPlain = true := by decide
  have readable : Json.Readable depthLimit (toJson stored) := ⟨by decide, by decide⟩
  have empty : Text.isBlankText "" = true := rfl
  obtain ⟨-, -, ⟨-, -, -, -, own⟩, alike⟩ :=
    unmodified_interchangeable calls reported plain readable empty "note" none
  exact ⟨reported, plain, readable, empty, by decide, own (by decide),
    fun title ↦ alike calls (title, ()) .standard (fun _ ↦ []) .anonymous moment.now
      fun _ _ _ _ _ ↦ rfl⟩

/-- Where contents show the tracking, what was sent without its last change may stand for the stored
object, which it does not have the content of. -/
theorem unmodified_differs_pascal :
    let calls := [.persist { storedPascal with version := .unsaved }]
    let sent : pascalDocument.Object :=
      { storedPascal with tracking := { storedPascal.tracking with updatedAt := none } }
    let service := Service.inMemory pascalDocument .standard fun _ ↦ []
    ((service.update .anonymous .epoch sent).run (Memory.reached calls)).value =
      .ok (.notModified .update storedPascal) ∧
    (Response.mk Status.notModified.code "").toUpdateAnswer "pascal_document" none sent =
      .notModified .update sent ∧
    (Response.ofAnswer (.notModified .update storedPascal)).toUpdateAnswer "pascal_document" none
      sent = .notModified .update storedPascal ∧
    sent.content ≠ storedPascal.content := by
  intro calls sent service
  have reported : ((service.update .anonymous .epoch sent).run (Memory.reached calls)).value =
      .ok (.notModified .update storedPascal) := by decide +kernel
  have readable : Json.Readable depthLimit (toJson storedPascal) := ⟨by decide, by decide⟩
  have other : sent.tracking ≠ storedPascal.tracking := by decide +kernel
  exact ⟨reported, toUpdateAnswer_of_blank rfl _ _ _, toUpdateAnswer_of_served readable _ _ _,
    fun same ↦ other (Model.Object.tracking_of_content (by decide) same)⟩

end Http

end VersionedStore
