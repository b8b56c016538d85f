import VersionedStore.Model.Catalogue
import VersionedStore.Proofs.Json.Order
import VersionedStore.Proofs.Memory.Transition
import VersionedStore.Proofs.Schema.Zeros

/-!
# What counts as a modification

A merge compares contents, which are documents without the usual keys of the metadata. Where a
model's JSON keeps these keys, the content of an object is the document of its OID and own fields,
and a merge finds nothing to change exactly when the own fields are equal, whatever the metadata.
Where the names are others, the metadata stays in the content.
-/

namespace VersionedStore

open Crud

private theorem OidKind.unsign_oid (k : OidKind) (oid : k.Oid) : k.schema.unsign oid = oid := by
  cases k <;> rfl

/-- There is no double in tracking. -/
theorem Tracking.isPlain_toJson (t : Tracking) : (toJson t).isPlain = true := by
  obtain ⟨_ | _, _ | _, _ | _, _ | _⟩ := t <;> rfl

namespace Model

variable {M : Model}

/-- The metadata goes under the usual names in the model's JSON. -/
def Conventional (M : Model) : Prop :=
  [M.names.numericId, M.names.version, M.names.tracking] = metadataKeys

instance (M : Model) : Decidable M.Conventional :=
  inferInstanceAs
    (Decidable ([M.names.numericId, M.names.version, M.names.tracking] = metadataKeys))

/-- How the OID and the own fields of an object are written. -/
def contentSchema (M : Model) : Schema :=
  .record "" false (.cons M.names.oid .filled (.optional M.oidKind.schema) M.ownFields)

/-- The OID and the own fields of an object. -/
def Object.bare (m : M.Object) : M.contentSchema.Value := (m.oid, m.own)

private theorem names_apart (M : Model) :
    M.names.oid ∉ [M.names.numericId, M.names.version, M.names.tracking] ∧
    M.names.oid ∉ M.ownFields.names ∧
    ∀ k ∈ M.ownFields.names, k ∉ [M.names.numericId, M.names.version, M.names.tracking] := by
  have distinct := M.names_fields_nodup
  simp only [fields, Fields.names, List.nodup_cons, List.mem_cons, not_or] at distinct
  obtain ⟨⟨o₁, o₂, o₃, o₄⟩, ⟨n₁, n₂, n₃⟩, ⟨v₁, v₂⟩, t, -⟩ := distinct
  refine ⟨by simp [o₁, o₂, o₃], o₄, fun k hk ↦ ?_⟩
  have ne {l : String} (h : l ∉ M.ownFields.names) : k ≠ l := fun eq ↦ h (eq ▸ hk)
  simp [ne n₃, ne v₂, ne t]

private theorem faithful_contentSchema (M : Model) : M.contentSchema.faithful = true := by
  rw [contentSchema, Schema.faithful, Fields.faithful_cons]
  exact ⟨(names_apart M).2.1, Schema.faithful_optional.mpr M.oidKind.faithful_schema,
    M.faithful_ownFields⟩

private theorem Object.encode_fields (m : M.Object) :
    M.fields.encode (Coded.toValue m) =
      (M.names.oid, (Schema.optional M.oidKind.schema).encode m.oid) ::
      (M.names.numericId, (Schema.optional .longWord).encode m.numericId) ::
      (M.names.version, toJson m.version) :: (M.names.tracking, toJson m.tracking) ::
        M.ownFields.encode m.own := rfl

private theorem Object.json_content (m : M.Object) :
    m.content.json = .obj (Dictionary.ofPairs (Json.sortMembers
      (Dictionary.without metadataKeys (M.fields.encode (Coded.toValue m))))) := by
  change Json.obj (Dictionary.without metadataKeys (Dictionary.ofPairs (Json.sortMembers
    (M.fields.encode (Coded.toValue m))))) = _
  rw [Dictionary.without_ofPairs, Json.sortMembers_eq_map, ← Dictionary.map_without,
    ← Json.sortMembers_eq_map]

private theorem Object.json_content_without (ks : List String) (m : M.Object) :
    (m.content.without ks).json = .obj (Dictionary.ofPairs (Json.sortMembers
      (Dictionary.without ks
        (Dictionary.without metadataKeys (M.fields.encode (Coded.toValue m)))))) := by
  show m.content.json.without ks = _
  rw [json_content]
  show Json.obj (Dictionary.without ks (Dictionary.ofPairs (Json.sortMembers
    (Dictionary.without metadataKeys (M.fields.encode (Coded.toValue m)))))) = _
  rw [Dictionary.without_ofPairs, Json.sortMembers_eq_map, ← Dictionary.map_without,
    ← Json.sortMembers_eq_map]

/-- The content of an object is the document of its OID and own fields. -/
theorem Object.content_eq (conventional : M.Conventional) (m : M.Object) :
    m.content = M.contentSchema.toDocument m.bare := by
  obtain ⟨oid, -, own⟩ := names_apart M
  rw [conventional] at oid own
  have metadata {k : String} (h : k ∈ [M.names.numericId, M.names.version, M.names.tracking]) :
      k ∈ metadataKeys := conventional ▸ h
  have kept : Dictionary.without metadataKeys (M.ownFields.encode m.own) =
      M.ownFields.encode m.own := by
    apply Dictionary.without_of_forall
    intro k hk
    obtain ⟨n, hn, rfl⟩ := List.mem_map.mp hk
    exact own n.1 (Fields.mem_names_of_mem_encode hn)
  have members : Dictionary.without metadataKeys (M.fields.encode (Coded.toValue m)) =
      (M.names.oid, (Schema.optional M.oidKind.schema).encode m.oid) ::
        M.ownFields.encode m.own := by
    rw [encode_fields, Dictionary.without_cons_of_not_mem oid,
      Dictionary.without_cons_of_mem (metadata (by simp)),
      Dictionary.without_cons_of_mem (metadata (by simp)),
      Dictionary.without_cons_of_mem (metadata (by simp)), kept]
  apply Document.ext
  rw [json_content, members]
  rfl

/-- Objects have the same content exactly when their OIDs are equal and their own fields are, up to
the sign of zeros. -/
theorem Object.sameContent_iff (conventional : M.Conventional) (m n : M.Object) :
    m.sameContent n = true ↔
      m.oid = n.oid ∧ M.ownFields.unsign m.own = M.ownFields.unsign n.own := by
  rw [sameContent, content_eq conventional, content_eq conventional,
    Schema.same_toDocument_iff M.faithful_contentSchema]
  have plain (oid : Option M.Oid) : (Schema.optional M.oidKind.schema).unsign oid = oid := by
    cases oid with
    | none => rfl
    | some oid => exact congrArg some (M.oidKind.unsign_oid oid)
  have parts (m : M.Object) :
      M.contentSchema.unsign m.bare = (m.oid, M.ownFields.unsign m.own) :=
    congrArg (Prod.mk · (M.ownFields.unsign m.own)) (plain m.oid)
  rw [parts, parts]
  exact Prod.mk.injEq .. ▸ Iff.rfl

/-- Contents leave the tracking out, as they do under the usual names and under those in camel
case. -/
def LeavesOutTracking (M : Model) : Prop := M.names.tracking ∈ metadataKeys

instance (M : Model) : Decidable M.LeavesOutTracking :=
  inferInstanceAs (Decidable (M.names.tracking ∈ metadataKeys))

private theorem Object.content_of_members {m n : M.Object}
    (h : Dictionary.without metadataKeys (M.fields.encode (Coded.toValue m)) =
      Dictionary.without metadataKeys (M.fields.encode (Coded.toValue n))) :
    m.content = n.content := by
  apply Document.ext
  rw [json_content, json_content, h]

/-- Where contents leave the tracking out, other tracking makes no other content. -/
theorem Object.content_withTracking (aside : M.LeavesOutTracking) (m : M.Object) (t : Tracking) :
    ({ m with tracking := t } : M.Object).content = m.content := by
  apply content_of_members
  rw [encode_fields, encode_fields]
  simp only [Dictionary.without, List.filter_cons, List.contains_iff_mem.mpr aside]
  rfl

/-- Whatever contents show of the tracking, other tracking makes no other content apart from it. -/
theorem Object.content_withTracking_apart (m : M.Object) (t : Tracking) :
    ({ m with tracking := t } : M.Object).content.without [M.names.tracking] =
      m.content.without [M.names.tracking] := by
  have own : M.names.tracking ∈ [M.names.tracking] := List.mem_singleton_self _
  apply Document.ext
  rw [json_content_without, json_content_without, Dictionary.without_comm,
    Dictionary.without_comm [M.names.tracking], encode_fields, encode_fields]
  simp only [Dictionary.without, List.filter_cons, List.contains_iff_mem.mpr own]
  rfl

/-- Where contents leave the numeric id out, another numeric id makes no other content. -/
theorem Object.content_withNumericId (aside : M.names.numericId ∈ metadataKeys) (m : M.Object)
    (n : Option (Word 64)) : ({ m with numericId := n } : M.Object).content = m.content := by
  apply content_of_members
  rw [encode_fields, encode_fields]
  simp only [Dictionary.without, List.filter_cons, List.contains_iff_mem.mpr aside]
  rfl

/-- The members of an object have keys of their own. -/
theorem Object.nodup_keys (m : M.Object) :
    (Dictionary.keys (M.fields.encode (Coded.toValue m))).Nodup := by
  have faithful := M.faithful_schema
  rw [schema, Schema.faithful] at faithful
  exact Fields.nodup_keys_encode faithful _

/-- A member under another key than those that contents leave out is found in the content. -/
theorem Object.get?_content {m : M.Object} {k : String} {v : Json}
    (written : (k, v) ∈ M.fields.encode (Coded.toValue m)) (shown : k ∉ metadataKeys) :
    m.content.json.get? k = some v.sort := by
  have left : (k, v) ∈ Dictionary.without metadataKeys (M.fields.encode (Coded.toValue m)) :=
    List.mem_filter.mpr ⟨written, by simp [shown]⟩
  rw [json_content]
  exact Json.get?_sortMembers (m.nodup_keys.sublist (List.filter_sublist.map Prod.fst)) left

/-- What contents show under a key is equal where the contents are. -/
theorem Object.eq_of_content {m n : M.Object} (same : m.content = n.content) {k : String}
    (shown : k ∉ metadataKeys) {s : Schema} (faithful : s.faithful = true) {v w : s.Value}
    (first : (k, s.encode v) ∈ M.fields.encode (Coded.toValue m))
    (second : (k, s.encode w) ∈ M.fields.encode (Coded.toValue n)) : v = w := by
  have found := get?_content first shown
  rw [same, get?_content second shown] at found
  exact Schema.eq_of_sort_encode faithful (Option.some.inj found).symm

/-- Where contents show the numeric id, it is equal where the contents are. -/
theorem Object.numericId_of_content (shown : M.names.numericId ∉ metadataKeys) {m n : M.Object}
    (same : m.content = n.content) : m.numericId = n.numericId :=
  eq_of_content (s := .optional .longWord) same shown (by decide)
    (List.mem_cons_of_mem _ List.mem_cons_self) (List.mem_cons_of_mem _ List.mem_cons_self)

/-- Where contents show the tracking, it is equal where the contents are. -/
theorem Object.tracking_of_content (shown : ¬M.LeavesOutTracking) {m n : M.Object}
    (same : m.content = n.content) : m.tracking = n.tracking :=
  Coded.toValue_injective <| eq_of_content (s := Coded.schema Tracking) same shown (by decide)
    (List.mem_cons_of_mem _ (List.mem_cons_of_mem _ (List.mem_cons_of_mem _ List.mem_cons_self)))
    (List.mem_cons_of_mem _ (List.mem_cons_of_mem _ (List.mem_cons_of_mem _ List.mem_cons_self)))

/-- Do two objects have the same content apart from the tracking? -/
def Object.sameApart (m n : M.Object) : Bool :=
  (m.content.without [M.names.tracking]).same (n.content.without [M.names.tracking])

/-- Tracking makes no difference apart from the tracking. -/
theorem Object.sameApart_withTracking (m n : M.Object) (t : Tracking) :
    m.sameApart { n with tracking := t } = m.sameApart n :=
  congrArg (Document.same (m.content.without [M.names.tracking]))
    (n.content_withTracking_apart t)

private theorem Object.unsign_get?_tracking (shown : ¬M.LeavesOutTracking) (m : M.Object) :
    (m.content.json.get? M.names.tracking).map Json.unsign = some (toJson m.tracking).sort := by
  have written : (M.names.tracking, toJson m.tracking) ∈ M.fields.encode (Coded.toValue m) := by
    rw [encode_fields]
    simp
  rw [get?_content written shown, Option.map_some, Json.unsign_sort,
    Json.unsign_of_isPlain _ m.tracking.isPlain_toJson]

/-- Where contents show the tracking, they are the same when the tracking is equal and all else is
the same. -/
theorem Object.sameContent_iff_of_shown (shown : ¬M.LeavesOutTracking) (m n : M.Object) :
    m.sameContent n = true ↔ m.tracking = n.tracking ∧ m.sameApart n = true := by
  have found (m : M.Object) := unsign_get?_tracking shown m
  constructor
  · intro same
    have unsigned : m.content.json.unsign = n.content.json.unsign := (Json.same_iff _ _).mp same
    have tracked : some (toJson m.tracking).sort = some (toJson n.tracking).sort := by
      rw [← found, ← found, ← Json.get?_unsign, ← Json.get?_unsign, unsigned]
    have faithful : (Coded.schema Tracking).faithful = true := by decide
    exact ⟨Coded.toValue_injective (Schema.eq_of_sort_encode faithful (Option.some.inj tracked)),
      Json.same_without _ same⟩
  · rintro ⟨tracked, apart⟩
    have member := (found m).trans ((congrArg (fun t ↦ some (toJson t).sort) tracked).trans
      (found n).symm)
    have apart : (m.content.json.without [M.names.tracking]).same
      (n.content.json.without [M.names.tracking]) = true := apart
    show m.content.json.same n.content.json = true
    rw [json_content, json_content] at apart member ⊢
    exact Json.same_of_without (Dictionary.ascending_ofPairs _) (Dictionary.ascending_ofPairs _)
      apart member

/-- Other tracking makes other content, unless contents leave it out. -/
theorem Object.sameContent_withTracking_iff (m : M.Object) (t : Tracking) :
    m.sameContent { m with tracking := t } = true ↔ M.LeavesOutTracking ∨ t = m.tracking := by
  by_cases aside : M.LeavesOutTracking
  · have same : m.sameContent { m with tracking := t } = m.sameContent m :=
      congrArg (Document.same m.content) (content_withTracking aside m t)
    exact iff_of_true (same.trans m.sameContent_self) (.inl aside)
  · have apart : m.sameApart { m with tracking := t } = true := by
      rw [sameApart_withTracking]
      exact Json.same_self _
    rw [sameContent_iff_of_shown aside]
    exact ⟨fun h ↦ .inr h.1.symm, fun h ↦ ⟨(h.resolve_left aside).symm, apart⟩⟩

/-- An object without doubles has none with other tracking. -/
theorem Object.isPlain_withTracking {m : M.Object} (plain : (toJson m).isPlain = true)
    (t : Tracking) : (toJson ({ m with tracking := t } : M.Object)).isPlain = true := by
  change (_ && (_ && (_ && (_ && Json.arePlainMembers (M.ownFields.encode m.own))))) = true
    at plain
  change (_ && (_ && (_ && ((toJson t).isPlain &&
    Json.arePlainMembers (M.ownFields.encode m.own))))) = true
  rw [t.isPlain_toJson]
  simp only [Bool.and_eq_true] at plain ⊢
  exact ⟨plain.1, plain.2.1, plain.2.2.1, trivial, plain.2.2.2.2⟩

/-- Objects without doubles that have the same content have equal contents. -/
theorem Object.content_of_same {m n : M.Object} (plain : (toJson m).isPlain = true)
    (plain' : (toJson n).isPlain = true) (same : m.sameContent n = true) :
    m.content = n.content := by
  have unsigned {m : M.Object} (plain : (toJson m).isPlain = true) :
      m.content.json.unsign = m.content.json := by
    show ((toJson m).sort.without metadataKeys).unsign = _
    rw [Json.unsign_without, Json.unsign_sort, Json.unsign_of_isPlain _ plain]
    rfl
  apply Document.ext
  rw [← unsigned plain, ← unsigned plain']
  exact (Json.same_iff _ _).mp same

/-- Contents show all own fields: none is named like metadata. -/
def ShowsOwn (M : Model) : Prop := ∀ f ∈ M.own, f.1 ∉ metadataKeys

instance (M : Model) : Decidable M.ShowsOwn :=
  inferInstanceAs (Decidable (∀ f ∈ M.own, f.1 ∉ metadataKeys))

/-- The own fields as a record of their own. -/
def ownSchema (M : Model) : Schema := .record "" false M.ownFields

/-- Where contents show all own fields, they are what is left without OID and metadata, under
whatever names these go. -/
theorem Object.content_without (shows : M.ShowsOwn) (m : M.Object) :
    m.content.without M.names.toList = M.ownSchema.toDocument m.own := by
  have own (k : String) (h : k ∈ Dictionary.keys (M.ownFields.encode m.own)) :
      k ∈ M.own.map Prod.fst := by
    obtain ⟨n, hn, rfl⟩ := List.mem_map.mp h
    rw [← Fields.names_ofList]
    exact Fields.mem_names_of_mem_encode hn
  have shown : Dictionary.without metadataKeys (M.ownFields.encode m.own) =
      M.ownFields.encode m.own := by
    apply Dictionary.without_of_forall
    intro k hk
    obtain ⟨f, hf, rfl⟩ := List.mem_map.mp (own k hk)
    exact shows f hf
  have named : Dictionary.without M.names.toList (M.ownFields.encode m.own) =
      M.ownFields.encode m.own := by
    apply Dictionary.without_of_forall
    intro k hk there
    exact (List.nodup_append.mp M.distinct).2.2 k there k (own k hk) rfl
  have members : Dictionary.without M.names.toList (Dictionary.without metadataKeys
      (M.fields.encode (Coded.toValue m))) = M.ownFields.encode m.own := by
    rw [Dictionary.without_comm, encode_fields,
      Dictionary.without_cons_of_mem (by simp [MetadataNames.toList]),
      Dictionary.without_cons_of_mem (by simp [MetadataNames.toList]),
      Dictionary.without_cons_of_mem (by simp [MetadataNames.toList]),
      Dictionary.without_cons_of_mem (by simp [MetadataNames.toList]), named, shown]
  apply Document.ext
  rw [json_content_without, members]
  rfl

/-- Where contents show all own fields, these are equal where the contents are. -/
theorem Object.own_of_content (shows : M.ShowsOwn) {m n : M.Object}
    (same : m.content = n.content) : m.own = n.own := by
  have faithful : M.ownSchema.faithful = true := M.faithful_ownFields
  have rest : M.ownSchema.toDocument m.own = M.ownSchema.toDocument n.own := by
    rw [← content_without shows, ← content_without shows, same]
  exact Schema.eq_of_sort_encode faithful (congrArg Document.json rest)

/-- Where contents show all own fields, objects with the same content have the same own fields, up
to the sign of zeros. -/
theorem Object.own_of_sameContent (shows : M.ShowsOwn) {m n : M.Object}
    (same : m.sameContent n = true) : M.ownFields.unsign m.own = M.ownFields.unsign n.own := by
  have faithful : M.ownSchema.faithful = true := M.faithful_ownFields
  have rest : (M.ownSchema.toDocument m.own).same (M.ownSchema.toDocument n.own) = true := by
    rw [← content_without shows, ← content_without shows]
    exact Json.same_without M.names.toList same
  exact (Schema.same_toDocument_iff faithful).mp rest

end Model

/-- A document that writes all its names in Pascal case, so that contents show all metadata. -/
def pascalDocument : Model where
  tag := "pascal_document"
  name := "PascalDocument"
  oidKind := .text
  names := .pascalCase
  own := [("Title", .text)]

/-- The document as it is stored for an anonymous caller. -/
def storedPascal : pascalDocument.Object :=
  ⟨some "a", some Version.first.number, .first, Tracking.empty.stampCreated none .epoch,
    ("title", ())⟩

namespace Memory

variable {M : Model}

/-- Where a model's JSON keeps the names of the metadata, a merge of an object with the OID and the
version of a stored one gives the stored object back and leaves the store alone exactly when the own
fields of the two are equal up to the sign of zeros, whatever their numeric ids and tracking. Keys
named like metadata inside an own field count with it. -/
theorem merge_notModified_iff (conventional : M.Conventional) (s : Memory M)
    {m stored : M.Object} {oid : M.Oid} (own : stored.oid = some oid)
    (meets : Meets s m oid stored) :
    let outcome := ((store M).merge m).run.run s
    outcome.value = .ok (.notModified stored) ∧ outcome.state = s ↔
      M.ownFields.unsign stored.own = M.ownFields.unsign m.own := by
  have content : stored.sameContent m = true ↔
      M.ownFields.unsign stored.own = M.ownFields.unsign m.own := by
    rw [Model.Object.sameContent_iff conventional, own, meets.own]
    exact and_iff_right rfl
  intro outcome
  rw [← content]
  constructor
  · rintro ⟨value, -⟩
    -- Of all that a merge can do, only finding the stored content ends this way.
    obtain ⟨failure, -, h⟩ | ⟨other, found, met, same, h⟩ | ⟨other, found, version, -, h⟩ :=
      merge_cases m s
    · have run : outcome = ⟨.error failure, s, []⟩ := h
      rw [run] at value
      cases value
    · obtain rfl : oid = other := Option.some.inj (meets.own.symm.trans met.own)
      obtain rfl : stored = found := Option.some.inj (meets.there.symm.trans met.there)
      exact same
    · have run : outcome = ⟨.ok (.updated (m.succeeding found version)), _, _⟩ := h
      rw [run] at value
      cases value
  · intro same
    have run : outcome = ⟨.ok (.notModified stored), s, _⟩ := merge_of_same meets same
    rw [run]
    exact ⟨rfl, rfl⟩

/-- A note that is stored. -/
def keptNote : Catalogue.note.Object :=
  ⟨some "a", some Version.first.number, .first, .empty, ("title", ())⟩

/-- The note with other metadata. -/
def restampedNote : Catalogue.note.Object :=
  { keptNote with
    numericId := some Version.last.number
    tracking := Tracking.empty.stampCreated (some "someone") .epoch }

/-- A store with the note. -/
def noteShelf : Memory Catalogue.note := ⟨[("a", keptNote)], Version.first.number⟩

/-- A note that differs from the stored one in metadata only does not modify it. -/
theorem merge_notModified_iff_note : Catalogue.note.Conventional ∧ keptNote.oid = some "a" ∧
    Meets noteShelf restampedNote "a" keptNote ∧
    (((store Catalogue.note).merge restampedNote).run.run noteShelf).value =
      .ok (.notModified keptNote) := by
  have conventional : Catalogue.note.Conventional := by decide
  have meets : Meets noteShelf restampedNote "a" keptNote := ⟨rfl, rfl, rfl⟩
  exact ⟨conventional, rfl, meets,
    ((merge_notModified_iff conventional noteShelf rfl meets).mpr rfl).1⟩

/-- A document in camel case that is stored. -/
def keptCamel : Catalogue.camel.Object :=
  ⟨some "a", some Version.first.number, .first, .empty, ("title", ())⟩

/-- The document with another numeric id. -/
def renumberedCamel : Catalogue.camel.Object :=
  { keptCamel with numericId := some Version.last.number }

/-- A store with the document. -/
def camelShelf : Memory Catalogue.camel := ⟨[("a", keptCamel)], Version.first.number⟩

/-- Where the JSON gives the metadata other names, a merge of the stored OID, version and own fields
modifies the stored object when the numeric id is another. -/
theorem merge_modifies_camel : keptCamel.oid = some "a" ∧
    Meets camelShelf renumberedCamel "a" keptCamel ∧ renumberedCamel.own = keptCamel.own ∧
    (((store Catalogue.camel).perform (.merge renumberedCamel)).run camelShelf).value =
      .merged (.updated { keptCamel with version := Version.first.next }) :=
  ⟨rfl, ⟨rfl, rfl, rfl⟩, rfl, by decide +kernel⟩

end Memory

end VersionedStore
