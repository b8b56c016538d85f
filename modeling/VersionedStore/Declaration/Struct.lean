import VersionedStore.Declaration.Token

/-!
# Declarations of structs

Attributes, fields and generic parameters with the trees they are spelled by, and how they are
spelled again. Lifetimes stand before the other parameters.
-/

namespace VersionedStore.Declaration

/-- An attribute, by what stands between its brackets. -/
structure Attribute where
  content : List Tree
  deriving DecidableEq

namespace Attribute

/-- The name of the attribute, unless it is a longer path. -/
def name? (a : Attribute) : Option String :=
  match a.content with
  | .word _ :: .mark ':' _ :: _ => none
  | .word w :: _ => some w
  | _ => none

/-- The spelling of the attribute. -/
def trees (a : Attribute) : List Tree := [.mark '#' false, .group .bracket a.content]

end Attribute

/-- The spelling of attributes one after the other. -/
def spelledAttributes (as : List Attribute) : List Tree := as.flatMap Attribute.trees

/-- A field without its name. -/
structure Field where
  attributes : List Attribute
  visibility : List Tree
  type : List Tree
  deriving DecidableEq

/-- A field with its name. -/
structure NamedField extends Field where
  name : String
  deriving DecidableEq

/-- The fields of a struct. -/
inductive Shape where
  | named (fields : List NamedField)
  | tuple (fields : List Field)
  | unit
  deriving DecidableEq

/-- A generic parameter. A type or a constant may have a value to fall back on. -/
inductive Parameter where
  | lifetime (attributes : List Attribute) (name : String) (bounds : List Tree)
  | type (attributes : List Attribute) (name : String) (bounds fallback : List Tree)
  | constant (attributes : List Attribute) (name : String) (type fallback : List Tree)
  deriving DecidableEq

namespace Parameter

/-- Is the parameter a lifetime? -/
def isLifetime : Parameter → Bool
  | .lifetime .. => true
  | _ => false

/-- What follows a sign, which is left out where nothing does. -/
def behind (sign : Char) (ts : List Tree) : List Tree :=
  if ts.isEmpty then [] else .mark sign false :: ts

/-- The parameter without a fallback. -/
def requirement : Parameter → List Tree
  | .lifetime as name bounds => spelledAttributes as ++ .lifetime name :: behind ':' bounds
  | .type as name bounds _ => spelledAttributes as ++ .word name :: behind ':' bounds
  | .constant as name kind _ => spelledAttributes as ++ .word "const" :: .word name :: behind ':' kind

/-- The parameter as it is declared. -/
def declared (p : Parameter) : List Tree :=
  match p with
  | .lifetime .. => p.requirement
  | .type _ _ _ fallback | .constant _ _ _ fallback => p.requirement ++ behind '=' fallback

/-- The name of the parameter, as an argument. -/
def argument : Parameter → List Tree
  | .lifetime _ name _ => [.lifetime name]
  | .type _ name _ _ | .constant _ name _ _ => [.word name]

end Parameter

/-- Generic parameters; with each goes whether a comma follows it. -/
structure Generics where
  parameters : List (Parameter × Bool)
  deriving DecidableEq

namespace Generics

/-- Nothing, or a comma. -/
def comma (needed : Bool) : List Tree := if needed then [.mark ',' false] else []

/-- The parameters in a spelling, lifetimes first, with their commas and one more where lifetimes
did not end with one. -/
def spelled (spell : Parameter → List Tree) (g : Generics) : List Tree :=
  let one (p : Parameter × Bool) : List Tree := spell p.1 ++ comma p.2
  let lifetimes := g.parameters.filter fun p ↦ p.1.isLifetime
  let others := g.parameters.filter fun p ↦ !p.1.isLifetime
  let between := (lifetimes.getLast?.any fun p ↦ !p.2) && !others.isEmpty
  lifetimes.flatMap one ++ comma between ++ others.flatMap one

/-- The spelling between angles, if there are parameters. -/
def angledBy (spell : Parameter → List Tree) (g : Generics) : List Tree :=
  if g.parameters.isEmpty then [] else angled (g.spelled spell)

end Generics

/-- The declaration of a struct. -/
structure Struct where
  attributes : List Attribute
  visibility : List Tree
  name : String
  generics : Generics
  constraints : List Tree
  shape : Shape
  deriving DecidableEq

/-- The spelling of the struct's type. -/
def Struct.type (s : Struct) : List Tree :=
  .word s.name :: s.generics.angledBy Parameter.argument

end VersionedStore.Declaration
