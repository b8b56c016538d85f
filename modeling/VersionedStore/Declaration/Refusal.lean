/-!
# Why a declaration is refused
-/

namespace VersionedStore.Declaration

/-- Why an attribute cannot be applied to a declaration. -/
inductive Refusal where
  | malformed
  | unknownModelKey
  | unknownOidKey
  | repeatedKey (key : String)
  | blankTag
  | notBoolean (key : String)
  | modelNotStruct
  | modelWithoutOid
  | modelNotNamed
  | oidNotStruct
  | oidFieldCount
  | oidNotTuple
  deriving DecidableEq, Repr

/-- The text of a refusal; a malformed declaration has none of its own. -/
def Refusal.message? : Refusal → Option String
  | .malformed => none
  | .unknownModelKey => some "unknown key in attribute; expected 'oid', 'tag' or 'debug'"
  | .unknownOidKey => some "unknown key in attribute; expected 'debug'"
  | .repeatedKey key => some ("duplicate key '" ++ key ++ "'")
  | .blankTag => some "'tag' must not be empty"
  | .notBoolean key => some ("expected boolean literal for '" ++ key ++ "'")
  | .modelNotStruct => some "#[model_object] only on struct"
  | .modelWithoutOid => some "#[model_object] requires `oid = OidType`"
  | .modelNotNamed => some "only supports named-field struct"
  | .oidNotStruct => some "#[oid] only on struct"
  | .oidFieldCount => some "#[oid] requires a tuple struct with exactly one field"
  | .oidNotTuple => some "#[oid] supports only tuple struct, e.g., struct OrderOid(Uuid);"

/-- Only a malformed declaration has no text. -/
theorem Refusal.message?_eq_none_iff {r : Refusal} : r.message? = none ↔ r = .malformed := by
  cases r <;> simp [message?]

end VersionedStore.Declaration
