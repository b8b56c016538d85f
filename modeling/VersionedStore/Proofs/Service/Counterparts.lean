import VersionedStore.Proofs.Memory.Content
import VersionedStore.Proofs.Service.Transition

/-!
# Objects that stand for each other in an update

An update stamps the last change anew, and what it stores has the numeric id and the creation of the
stored object. So the numeric id and the tracking of what is sent matter only as far as contents
show them: counterparts with the same own fields are updated alike, in every consistent store.
-/

namespace VersionedStore

open Crud

namespace Model.Object

variable {M : Model} {m n : M.Object}

/-- Two objects have the same OID and version, and whatever contents show of numeric id and creation
is the same. -/
structure Counterparts (m n : M.Object) : Prop where
  oid : m.oid = n.oid
  version : m.version = n.version
  numericId : M.names.numericId ∉ metadataKeys → m.numericId = n.numericId
  createdAt : ¬M.LeavesOutTracking → m.tracking.createdAt = n.tracking.createdAt
  createdBy : ¬M.LeavesOutTracking → m.tracking.createdBy = n.tracking.createdBy

/-- Counterparts that are given other own fields are still counterparts. -/
theorem Counterparts.withOwn (h : m.Counterparts n) (own own' : M.ownFields.Values) :
    Counterparts { m with own := own } { n with own := own' } :=
  ⟨h.oid, h.version, h.numericId, h.createdAt, h.createdBy⟩

/-- An object whose content is another's once it is stamped is a counterpart of the other. -/
theorem counterparts_of_content {caller : Caller} {now : Instant} (oid : m.oid = n.oid)
    (version : m.version = n.version) (same : (m.stampedChanged caller now).content = n.content) :
    m.Counterparts n := by
  have numericId (shown : M.names.numericId ∉ metadataKeys) :
      (m.stampedChanged caller now).numericId = n.numericId := numericId_of_content shown same
  have creation (shown : ¬M.LeavesOutTracking) : m.tracking.createdAt = n.tracking.createdAt ∧
      m.tracking.createdBy = n.tracking.createdBy := by
    rw [← tracking_of_content shown same]
    exact ⟨rfl, rfl⟩
  exact ⟨oid, version, numericId, fun shown ↦ (creation shown).1, fun shown ↦ (creation shown).2⟩

private theorem Counterparts.content_stampedChanged (h : m.Counterparts n) (own : m.own = n.own)
    (caller : Caller) (now : Instant) :
    (m.stampedChanged caller now).content = (n.stampedChanged caller now).content := by
  -- The numeric id and then the tracking are exchanged; each is no content or the same.
  let renumbered : M.Object := { n.stampedChanged caller now with numericId := m.numericId }
  have exchanged : m.stampedChanged caller now =
      { renumbered with tracking := m.tracking.stampUpdated caller.user now } := by
    simp only [renumbered, stampedChanged, h.oid, h.version, own]
  have tracked : (m.stampedChanged caller now).content = renumbered.content := by
    rw [exchanged]
    by_cases aside : M.LeavesOutTracking
    · exact content_withTracking aside renumbered _
    · have same : m.tracking.stampUpdated caller.user now = renumbered.tracking := by
        simp only [renumbered, stampedChanged, Tracking.stampUpdated, h.createdAt aside,
          h.createdBy aside]
      rw [same]
  have numbered : renumbered.content = (n.stampedChanged caller now).content := by
    by_cases aside : M.names.numericId ∈ metadataKeys
    · exact content_withNumericId aside (n.stampedChanged caller now) _
    · have same : m.numericId = (n.stampedChanged caller now).numericId := h.numericId aside
      simp only [renumbered, same]
  exact tracked.trans numbered

end Model.Object

namespace Memory

variable {M : Model} {m n : M.Object}

private theorem persist_congr (oid : m.oid = n.oid) (tracking : m.tracking = n.tracking)
    (own : m.own = n.own) : persist m = persist n := by
  cases m
  cases n
  cases oid
  cases tracking
  cases own
  rfl

private theorem run_merge_congr {s : Memory M} (consistent : Consistent s) {key : M.Oid}
    {stored : M.Object} (there : s.get? key = some stored) (given : n.oid = some key)
    (oid : m.oid = n.oid) (version : m.version = n.version) (own : m.own = n.own)
    (content : m.content = n.content)
    (carried : ∀ t, m.tracking.carryCreation t = n.tracking.carryCreation t) :
    (merge m).run.run s = (merge n).run.run s := by
  have given' : m.oid = some key := oid.trans given
  by_cases agrees : stored.version = n.version
  · have same : stored.sameContent m = stored.sameContent n := by
      rw [Model.Object.sameContent, Model.Object.sameContent, content]
    have next (v : Version) : m.succeeding stored v = n.succeeding stored v := by
      obtain ⟨number, numbered⟩ :=
        Option.isSome_iff_exists.mp (consistent.fits_of_get? there).numbered
      simp only [Model.Object.succeeding, oid, own, carried, numbered]
      rfl
    rw [run_merge_of_meets ⟨given', there, agrees.trans version.symm⟩,
      run_merge_of_meets ⟨given, there, agrees⟩, same, carried]
    simp only [next]
  · have agrees' : stored.version ≠ m.version := version.symm ▸ agrees
    rw [merge_of_conflict given' there agrees', merge_of_conflict given there agrees, version]

end Memory

namespace Service

open Memory (Consistent)
open Model.Object (Counterparts)

variable {M : Model} {settings : Settings} {validate : M.Object → List Violation} {caller : Caller}
  {now : Instant} {m n : M.Object} {s : Memory M}

private theorem insert_congr (oid : m.oid = n.oid) (own : m.own = n.own) (requested : Requested) :
    (inMemory M settings validate).insert caller now requested m =
      (inMemory M settings validate).insert caller now requested n := by
  have stamped : Memory.persist (m.stampedNew caller now) =
      Memory.persist (n.stampedNew caller now) := Memory.persist_congr oid rfl own
  have text : m.oidText = n.oidText := by rw [Model.Object.oidText, Model.Object.oidText, oid]
  change ((Memory.persist (m.stampedNew caller now)).run >>= _) =
    ((Memory.persist (n.stampedNew caller now)).run >>= _)
  rw [stamped, text]

private theorem run_replace_congr (consistent : Consistent s) (alike : m.Counterparts n)
    (own : m.own = n.own) {oid : M.Oid} (given : n.oid = some oid) {stored : M.Object}
    (there : s.get? oid = some stored) :
    ((inMemory M settings validate).replace caller now oid m).run s =
      ((inMemory M settings validate).replace caller now oid n).run s := by
  have merged : (Memory.merge (m.stampedChanged caller now)).run.run s =
      (Memory.merge (n.stampedChanged caller now)).run.run s :=
    Memory.run_merge_congr consistent there given alike.oid alike.version own
      (alike.content_stampedChanged own caller now) fun _ ↦ rfl
  change ((Memory.merge (m.stampedChanged caller now)).run >>= _).run s =
    ((Memory.merge (n.stampedChanged caller now)).run >>= _).run s
  rw [Action.run_bind, Action.run_bind, merged]

private theorem run_updateAt_congr (consistent : Consistent s) (alike : m.Counterparts n)
    (own : m.own = n.own) (blind : validate m = validate n) {oid : M.Oid}
    (given : n.oid = some oid) :
    ((inMemory M settings validate).updateAt caller now oid m).run s =
      ((inMemory M settings validate).updateAt caller now oid n).run s := by
  have text : m.oidText = n.oidText := by
    rw [Model.Object.oidText, Model.Object.oidText, alike.oid]
  simp only [updateAt, inMemory, blind]
  cases validate n with
  | cons violation more =>
    simp only [answerInvalid, text]
  | nil =>
    simp only
    rw [Action.run_bind_of (Memory.run_contains oid s),
      Action.run_bind_of (Memory.run_contains oid s)]
    cases there : s.get? oid with
    | some stored =>
      have replaced : ((inMemory M settings validate).replace caller now oid m).run s =
          ((inMemory M settings validate).replace caller now oid n).run s :=
        run_replace_congr consistent alike own given there
      rw [inMemory] at replaced
      simp only [Option.isSome_some, replaced]
    | none =>
      have inserted : (inMemory M settings validate).insert caller now .update m =
          (inMemory M settings validate).insert caller now .update n :=
        insert_congr alike.oid own .update
      rw [inMemory] at inserted
      simp only [Option.isSome_none, inserted]
      rfl

/-- Counterparts with the same own fields are updated alike: with the same outcome, in every
consistent store and by every service whose rules look neither at numeric id nor at tracking. -/
theorem run_update_congr (consistent : Consistent s) (alike : m.Counterparts n)
    (own : m.own = n.own) (blind : validate m = validate n) :
    ((inMemory M settings validate).update caller now m).run s =
      ((inMemory M settings validate).update caller now n).run s := by
  simp only [update, alike.oid, alike.version]
  cases given : n.oid with
  | none => rfl
  | some oid =>
    have updated : ((inMemory M settings validate).updateAt caller now oid m).run s =
        ((inMemory M settings validate).updateAt caller now oid n).run s :=
      run_updateAt_congr consistent alike own blind given
    simp only
    split
    · rfl
    · split
      · rfl
      · rw [Action.run_bind, Action.run_bind, updated]

end Service

end VersionedStore
