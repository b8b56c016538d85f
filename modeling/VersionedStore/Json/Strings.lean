import VersionedStore.Json.Basic

/-!
# The strings of a value

Changing and testing every string inside a value; keys are left out.
-/

namespace VersionedStore.Json

mutual

/-- Change every string. -/
def mapStrings (f : String → String) : Json → Json
  | .str s => .str (f s)
  | .arr vs => .arr (mapStringsOfItems f vs)
  | .obj ms => .obj (mapStringsOfMembers f ms)
  | v => v

/-- Change every string of items. -/
def mapStringsOfItems (f : String → String) : List Json → List Json
  | [] => []
  | v :: vs => mapStrings f v :: mapStringsOfItems f vs

/-- Change every string of members. -/
def mapStringsOfMembers (f : String → String) : List (String × Json) → List (String × Json)
  | [] => []
  | (k, v) :: ms => (k, mapStrings f v) :: mapStringsOfMembers f ms

end

mutual

/-- The strings from left to right. -/
def strings : Json → List String
  | .str s => [s]
  | .arr vs => stringsOfItems vs
  | .obj ms => stringsOfMembers ms
  | _ => []

/-- The strings of items. -/
def stringsOfItems : List Json → List String
  | [] => []
  | v :: vs => strings v ++ stringsOfItems vs

/-- The strings of members. -/
def stringsOfMembers : List (String × Json) → List String
  | [] => []
  | (_, v) :: ms => strings v ++ stringsOfMembers ms

end

mutual

/-- Changing the strings changes each of them. -/
theorem strings_mapStrings (f : String → String) :
    (v : Json) → strings (mapStrings f v) = (strings v).map f
  | .str _ | .null | .bool _ | .int _ | .float _ => by simp [mapStrings, strings]
  | .arr vs => by simp [mapStrings, strings, stringsOfItems_mapStrings f vs]
  | .obj ms => by simp [mapStrings, strings, stringsOfMembers_mapStrings f ms]

/-- Changing the strings of items changes each of them. -/
theorem stringsOfItems_mapStrings (f : String → String) :
    (vs : List Json) → stringsOfItems (mapStringsOfItems f vs) = (stringsOfItems vs).map f
  | [] => rfl
  | v :: vs => by
    simp [mapStringsOfItems, stringsOfItems, strings_mapStrings f v, stringsOfItems_mapStrings f vs]

/-- Changing the strings of members changes each of them. -/
theorem stringsOfMembers_mapStrings (f : String → String) :
    (ms : List (String × Json)) →
      stringsOfMembers (mapStringsOfMembers f ms) = (stringsOfMembers ms).map f
  | [] => rfl
  | (k, v) :: ms => by
    simp [mapStringsOfMembers, stringsOfMembers, strings_mapStrings f v,
      stringsOfMembers_mapStrings f ms]

end

end VersionedStore.Json
