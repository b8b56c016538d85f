import VersionedStore.Toml.Scalar

/-!
# TOML definitions

What has been defined under which path. A path may pass through tables and through the last table of
an array of tables. Nothing may be defined twice, except that a header may name a table that so far
only lay on the way to another one.
-/

namespace VersionedStore.Toml

/-- A step of a path: into a table, or to a table of an array. -/
inductive Step where
  | key (name : String)
  | item (index : Nat)
  deriving DecidableEq, Repr

/-- What a path stands for. -/
inductive Definition where
  /-- A value. -/
  | value (v : Value)
  /-- A table on the way of a header. -/
  | passed
  /-- A table on the way of a dotted key. -/
  | dotted
  /-- A table with a header of its own. -/
  | headed
  /-- An array of so many tables. -/
  | tables (count : Nat)
  deriving DecidableEq, Repr

/-- The definitions so far. -/
abbrev Scope := List (List Step × Definition)

namespace Scope

/-- What a path stands for. -/
def get? (path : List Step) (s : Scope) : Option Definition :=
  (s.find? fun d ↦ d.1 == path).map Prod.snd

/-- The scope with a definition of a path, in place of an earlier one. -/
def define (path : List Step) (d : Definition) (s : Scope) : Scope :=
  (path, d) :: s.filter fun e ↦ e.1 != path

/-- Go from a table to the table under some keys, on the way of a dotted key or of a header. -/
def descend (dotted : Bool) : List Step → List String → Scope → Option (List Step × Scope)
  | path, [], s => some (path, s)
  | path, k :: ks, s =>
    let next := path ++ [.key k]
    match s.get? next with
    | none => descend dotted next ks (s.define next (if dotted then .dotted else .passed))
    | some .passed | some .dotted => descend dotted next ks s
    | some .headed => if dotted then none else descend dotted next ks s
    | some (.tables count) => descend dotted (next ++ [.item (count - 1)]) ks s
    | some (.value _) => none

/-- Give a value to a key in a table. What lies right before the last dot of the key must be a table
of dotted keys. -/
def assign (table : List Step) (keys : List String) (v : Value) (s : Scope) : Option Scope := do
  let (path, s) ← descend true table keys.dropLast s
  if path ≠ table ∧ s.get? path ≠ some .dotted then none
  let name ← keys.getLast?
  let target := path ++ [.key name]
  if (s.get? target).isSome then none else some (s.define target (.value v))

/-- Begin the table under some keys. -/
def beginTable (keys : List String) (s : Scope) : Option (List Step × Scope) := do
  let (path, s) ← descend false [] keys.dropLast s
  let name ← keys.getLast?
  let target := path ++ [.key name]
  match s.get? target with
  | none | some .passed => some (target, s.define target .headed)
  | _ => none

/-- Begin the next table of the array under some keys. -/
def beginItem (keys : List String) (s : Scope) : Option (List Step × Scope) := do
  let (path, s) ← descend false [] keys.dropLast s
  let name ← keys.getLast?
  let target := path ++ [.key name]
  let count ← match s.get? target with
    | none => some 0
    | some (.tables count) => some count
    | _ => none
  let item := target ++ [.item count]
  some (item, (s.define target (.tables (count + 1))).define item .headed)

end Scope

end VersionedStore.Toml
