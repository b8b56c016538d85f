import VersionedStore.Model.Object

/-!
# A catalogue of models

Models of a small office: notes, customers with UUIDs, purchase orders, bags of arbitrary data,
documents whose metadata goes under names in camel case, and strict memos that refuse unknown
fields. Two of the models share a tag.
-/

namespace VersionedStore.Catalogue

/-- A note has a title. -/
def note : Model where
  tag := "note"
  name := "Note"
  oidKind := .text
  own := [("title", .text)]

/-- An impostor goes by the tag of notes. -/
def impostor : Model where
  tag := "note"
  name := "Impostor"
  oidKind := .text
  own := [("name", .text)]

/-- A customer is identified by a UUID. -/
def customer : Model where
  tag := "customer"
  name := "Customer"
  oidKind := .uuid
  own := [("name", .text), ("email", .text), ("age", .word 8)]

/-- A purchase order has an amount and lines. -/
def purchaseOrder : Model where
  tag := "purchase_order"
  name := "PurchaseOrder"
  oidKind := .text
  own := [("amount", .int64), ("paid", .flag false), ("code", .optional .text),
    ("lines", .list .text)]

/-- A bag holds any JSON. -/
def bag : Model where
  tag := "bag"
  name := "Bag"
  oidKind := .text
  own := [("data", .document)]

/-- A camel document writes its names in camel case. -/
def camel : Model where
  tag := "camel"
  name := "CamelDoc"
  oidKind := .text
  names := .camelCase
  own := [("docTitle", .text)]

/-- A strict memo refuses fields that it does not know. -/
def strict : Model where
  tag := "strict"
  name := "Strict"
  oidKind := .text
  closed := true
  own := [("memo", .text)]

/-- All models of the catalogue with the names they are asked for by. -/
def all : List (String × Model) :=
  [("note", note), ("impostor", impostor), ("customer", customer),
   ("purchase_order", purchaseOrder), ("bag", bag), ("camel", camel), ("strict", strict)]

/-- The model with a name. -/
def model? (name : String) : Option Model := (all.find? fun m ↦ m.1 == name).map Prod.snd

end VersionedStore.Catalogue
