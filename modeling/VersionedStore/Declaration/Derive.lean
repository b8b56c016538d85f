import VersionedStore.Declaration.Grammar
import VersionedStore.Declaration.Struct

/-!
# Derived traits

A struct has one attribute for the traits that it derives. Required traits come first, then those
that its own attributes name; a trait is known by the last name of its path, and named once.
-/

namespace VersionedStore.Declaration

/-- A path to a trait. -/
structure Path where
  trees : List Tree
  isPath : (Rule.path .type).whole? trees = some trees

namespace Path

/-- The path at the front of trees. -/
def read? (ts : List Tree) : Option (Path × List Tree) := do
  let (path, rest) ← (Rule.path .type).split? ts
  if h : (Rule.path .type).whole? path = some path then some (⟨path, h⟩, rest) else none

/-- The last name outside of angles, of which so many are open. -/
def lastName : Nat → String → List Tree → String
  | _, name, [] => name
  | depth, name, .mark '-' _ :: .mark '>' _ :: ts => lastName depth name ts
  | depth, name, .mark '<' _ :: ts => lastName (depth + 1) name ts
  | depth, name, .mark '>' _ :: ts => lastName (depth - 1) name ts
  | 0, _, .word w :: ts => lastName 0 w ts
  | depth, name, _ :: ts => lastName depth name ts

/-- The name that the trait is known by. -/
def key (p : Path) : String := lastName 0 "" p.trees

/-- Paths with commas between. -/
def joined : List Path → List Tree
  | [] => []
  | [p] => p.trees
  | p :: ps => p.trees ++ .mark ',' false :: joined ps

/-- The first of the paths to each trait. -/
def distinct : List Path → List Path
  | [] => []
  | p :: ps => p :: (distinct ps).filter fun q ↦ q.key ≠ p.key

/-- Among distinct paths each trait occurs once. -/
theorem distinct_nodup (ps : List Path) : ((distinct ps).map key).Nodup := by
  induction ps with
  | nil => simp [distinct]
  | cons p ps ih =>
    simp only [distinct, List.map_cons, List.nodup_cons, List.mem_map, List.mem_filter,
      decide_eq_true_eq]
    refine ⟨fun ⟨q, ⟨_, h⟩, e⟩ ↦ h e, ?_⟩
    exact ih.sublist (List.Sublist.map _ List.filter_sublist)

end Path

namespace Attribute

/-- Does the attribute name derived traits? -/
def isDerive (a : Attribute) : Bool := a.name? == some "derive"

/-- The attribute that derives traits. -/
def derive (ps : List Path) : Attribute :=
  ⟨[.word "derive", .group .parenthesis (Path.joined ps)]⟩

/-- The traits that an attribute derives; none if it does not list paths. -/
def derived (a : Attribute) : List Path :=
  match a.content with
  | [.word "derive", .group _ content] => (separated none Path.read? content.length content).getD []
  | _ => []

end Attribute

/-- The required traits and those that attributes derive, each once. -/
def mergedDerives (required : List Path) (as : List Attribute) : List Path :=
  Path.distinct (required ++ as.flatMap Attribute.derived)

/-- Attributes with one for all derived traits in front, in place of those that named some. -/
def withDerives (required : List Path) (as : List Attribute) : List Attribute :=
  .derive (mergedDerives required as) :: as.filter fun a ↦ !a.isDerive

end VersionedStore.Declaration
