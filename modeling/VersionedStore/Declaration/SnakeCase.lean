import VersionedStore.Text.Capital

/-!
# Names in small letters

A name with capitals at the start of its words becomes one in small letters with underscores between
them.
-/

namespace VersionedStore.Declaration

open Text

/-- A character inside a name: a capital begins a word. -/
def snakeInside (c : Char) : List Char := if isCapital c then '_' :: smallForm c else [c]

/-- The first character of a name. -/
def snakeFirst (c : Char) : List Char := if isCapital c then smallForm c else [c]

/-- A name in small letters, with an underscore before each capital but the first character. -/
def snakeCase (s : String) : String :=
  match s.toList with
  | [] => ""
  | c :: cs => String.ofList (snakeFirst c ++ cs.flatMap snakeInside)

end VersionedStore.Declaration
