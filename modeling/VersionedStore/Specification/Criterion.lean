import VersionedStore.Json.Basic
import VersionedStore.Text.Blank
import VersionedStore.Text.Part

/-!
# Criteria on JSON

The leaves of specifications over JSON values: a test on the value itself or on one member of an
object. A test on a member that is not there fails, whatever the test.
-/

namespace VersionedStore

/-- A test of a JSON value. -/
inductive Test where
  | always
  | never
  | equals (v : Json)
  | above (n : Int)
  | below (n : Int)
  | even
  | containing (part : String)
  | notBlank
  | atMost (length : Nat)
  deriving DecidableEq

/-- The number of an integer that has 64 bits with its sign. -/
def Json.asInt64? : Json → Option Int
  | .int n => if -0x8000000000000000 ≤ n ∧ n < 0x8000000000000000 then some n else none
  | _ => none

/-- Does a value pass a test? -/
def Test.holds : Test → Json → Bool
  | .always, _ => true
  | .never, _ => false
  | .equals v, w => w.same v
  | .above n, w => w.asInt64?.any fun m ↦ decide (n < m)
  | .below n, w => w.asInt64?.any fun m ↦ decide (m < n)
  | .even, w => w.asInt64?.any fun m ↦ m % 2 == 0
  | .containing part, w => w.asString?.any fun s ↦ Text.containsPart part.toList s.toList
  | .notBlank, w => w.asString?.any fun s ↦ !Text.isBlankText s
  | .atMost length, w => w.asString?.any fun s ↦ decide (s.toList.length ≤ length)

/-- A test on a value, or on one of its members. -/
structure Criterion where
  member : Option String
  test : Test
  deriving DecidableEq

/-- Does a value meet a criterion? -/
def Criterion.holds (c : Criterion) (v : Json) : Bool :=
  match c.member with
  | none => c.test.holds v
  | some key => (v.get? key).any c.test.holds

end VersionedStore
