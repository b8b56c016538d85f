import VersionedStore.Model.Object
import VersionedStore.Registry
import VersionedStore.Store.Memory

/-!
# A shop

Two models for a showing of services: orders with UUIDs, which must name a customer, and products.
-/

namespace VersionedStore.Showcase

/-- An order has a customer and a total. -/
def order : Model where
  tag := "order"
  name := "Order"
  oidKind := .uuid
  own := [("customer", .text), ("total_cents", .longWord)]

/-- A product has a name and a stock. -/
def product : Model where
  tag := "product"
  name := "Product"
  oidKind := .text
  own := [("name", .text), ("stock", .word 32)]

/-- The customer of an order. -/
def customer (m : order.Object) : String :=
  let own : String × Word 64 × Unit := m.own
  own.1

/-- The order with another total. -/
def withTotal (cents : Word 64) (m : order.Object) : order.Object :=
  let own : String × Word 64 × Unit := (customer m, cents, ())
  { m with own }

/-- A new order of a customer. -/
def orderOf (customer : String) (cents : Word 64) : order.Object :=
  let own : String × Word 64 × Unit := (customer, cents, ())
  { Model.Object.initial order with own }

/-- The rules for orders, as conditions on orders. -/
def orderRules : RuleSet (order.Object → Bool) :=
  [⟨.leaf fun m ↦ !Text.isBlankText (customer m), ⟨some "customer", "customer is required"⟩⟩]

/-- The service for orders, over an empty store. -/
def orders (settings : Settings) : Registration where
  model := order
  State := Memory order
  service := ⟨Memory.store order, settings, fun m ↦ orderRules.check fun holds ↦ holds m⟩
  state := .empty order

/-- The service for products, over an empty store. -/
def products (settings : Settings) : Registration where
  model := product
  State := Memory product
  service := { store := Memory.store product, settings }
  state := .empty product

end VersionedStore.Showcase
