import VersionedStore.Schema.Coded

/-!
# Object identifiers

An OID is a text of any form or a UUID. Every kind of OID has a text for each value; reading it back
gives the value, and a UUID may also be read from its other spellings.
-/

namespace VersionedStore

/-- What the OIDs of a model are. -/
inductive OidKind where
  | text
  | uuid
  deriving DecidableEq, Repr

namespace OidKind

/-- How the OIDs of a kind are written as JSON. -/
def schema : OidKind → Schema
  | .text => .text
  | .uuid => .uuid

/-- The OIDs of a kind. -/
abbrev Oid (k : OidKind) : Type := k.schema.Value

/-- The text of an OID. -/
def textOf : (k : OidKind) → k.Oid → String
  | .text, s => s
  | .uuid, u => Uuid.text u

/-- The OID of a text, if it is one. -/
def ofText? : (k : OidKind) → String → Option k.Oid
  | .text, s => some s
  | .uuid, s => Uuid.read? s

/-- The OID that is made of a fresh UUID; as a text it has no hyphens. -/
def generate : (k : OidKind) → Uuid → k.Oid
  | .text, u => Uuid.simpleText u
  | .uuid, u => u

/-- The text of an OID reads as the OID. -/
theorem ofText?_textOf (k : OidKind) (o : k.Oid) : k.ofText? (k.textOf o) = some o := by
  cases k with
  | text => rfl
  | uuid => exact Uuid.read?_text o

/-- OIDs with the same text are equal. -/
theorem textOf_injective {k : OidKind} {o p : k.Oid} (h : k.textOf o = k.textOf p) : o = p := by
  have := k.ofText?_textOf o
  rw [h, ofText?_textOf] at this
  exact (Option.some.inj this).symm

/-- An OID is written as its text. -/
theorem encode_oid (k : OidKind) (o : k.Oid) : k.schema.encode o = .str (k.textOf o) := by
  cases k <;> rfl

end OidKind

end VersionedStore
