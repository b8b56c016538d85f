import VersionedStore.Text.Blank

/-!
# Token trees

The source text of a declaration as a list of trees: words, lifetimes, literals with their spelling,
single marks, and groups between delimiters. A mark knows whether another one follows it at once,
since some marks mean something else together.
-/

namespace VersionedStore.Declaration

/-- What a group stands between. -/
inductive Delimiter where
  | parenthesis
  | bracket
  | brace
  deriving DecidableEq, Repr

/-- The opening character of a delimiter. -/
def Delimiter.opening : Delimiter → Char
  | .parenthesis => '('
  | .bracket => '['
  | .brace => '\x7b'

/-- The closing character of a delimiter. -/
def Delimiter.closing : Delimiter → Char
  | .parenthesis => ')'
  | .bracket => ']'
  | .brace => '\x7d'

/-- What a literal stands for; a placeholder stands where something could not be expanded. -/
inductive LiteralKind where
  | string
  | bytes
  | cString
  | byte
  | character
  | integer
  | float
  | placeholder
  deriving DecidableEq, Repr

/-- A token, or a group of trees. -/
inductive Tree where
  | word (s : String)
  | lifetime (name : String)
  | literal (kind : LiteralKind) (spelling : String)
  | mark (c : Char) (joint : Bool)
  | group (delimiter : Delimiter) (content : List Tree)
  deriving Inhabited

namespace Tree

mutual

/-- Equality of trees is decided part by part. -/
def decEq : (a b : Tree) → Decidable (a = b)
  | .word a, .word b => decidable_of_iff (a = b) (by simp)
  | .lifetime a, .lifetime b => decidable_of_iff (a = b) (by simp)
  | .literal k a, .literal l b => decidable_of_iff (k = l ∧ a = b) (by simp)
  | .mark c j, .mark d k => decidable_of_iff (c = d ∧ j = k) (by simp)
  | .group d a, .group e b =>
    have := decEqAll a b
    decidable_of_iff (d = e ∧ a = b) (by simp)
  | .word _, .lifetime _ | .word _, .literal .. | .word _, .mark .. | .word _, .group ..
  | .lifetime _, .word _ | .lifetime _, .literal .. | .lifetime _, .mark .. | .lifetime _, .group ..
  | .literal .., .word _ | .literal .., .lifetime _ | .literal .., .mark .. | .literal .., .group ..
  | .mark .., .word _ | .mark .., .lifetime _ | .mark .., .literal .. | .mark .., .group ..
  | .group .., .word _ | .group .., .lifetime _ | .group .., .literal .. | .group .., .mark .. =>
    isFalse (by simp)

/-- Equality of lists of trees. -/
def decEqAll : (a b : List Tree) → Decidable (a = b)
  | [], [] => isTrue rfl
  | [], _ :: _ | _ :: _, [] => isFalse (by simp)
  | x :: xs, y :: ys =>
    have := decEq x y
    have := decEqAll xs ys
    decidable_of_iff (x = y ∧ xs = ys) (by simp)

end

instance : DecidableEq Tree := decEq

mutual

/-- The characters of a tree. -/
def chars : Tree → List Char
  | .word s | .literal _ s => s.toList
  | .lifetime name => '\'' :: name.toList
  | .mark c _ => [c]
  | .group d content => d.opening :: charsAll content ++ [d.closing]

/-- The characters of trees one after the other. -/
def charsAll : List Tree → List Char
  | [] => []
  | t :: ts => chars t ++ charsAll ts

end

mutual

/-- Does one of the tokens pass a test of its text? -/
def anyToken (test : List Char → Bool) : Tree → Bool
  | .group _ content => anyTokenOf test content
  | t => test t.chars

/-- Does a token of one of the trees pass a test of its text? -/
def anyTokenOf (test : List Char → Bool) : List Tree → Bool
  | [] => false
  | t :: ts => anyToken test t || anyTokenOf test ts

end

mutual

/-- The number of trees inside a tree and of the tree itself. -/
def size : Tree → Nat
  | .group _ content => 1 + sizeAll content
  | _ => 1

/-- The number of trees inside trees and of the trees themselves. -/
def sizeAll : List Tree → Nat
  | [] => 0
  | t :: ts => size t + sizeAll ts

end

end Tree

/-- The text of trees without any blanks, not even those inside literals. -/
def compact (ts : List Tree) : String :=
  String.ofList ((Tree.charsAll ts).filter fun c ↦ !Text.isBlank c)

/-- The tokens of a path that starts at the root. -/
def rooted (names : List String) : List Tree :=
  names.flatMap fun n ↦ [.mark ':' true, .mark ':' false, .word n]

/-- The tokens between a pair of angles. -/
def angled (ts : List Tree) : List Tree := .mark '<' false :: ts ++ [.mark '>' false]

/-- A tree counts itself. -/
theorem Tree.size_pos (t : Tree) : 0 < t.size := by
  cases t with
  | group d content => simp only [size]; omega
  | _ => exact Nat.zero_lt_one

/-- The trees of two lists are counted one list after the other. -/
theorem Tree.sizeAll_append (a b : List Tree) : sizeAll (a ++ b) = sizeAll a + sizeAll b := by
  induction a with
  | nil => simp [sizeAll]
  | cons t ts ih => simp [sizeAll, ih, Nat.add_assoc]

end VersionedStore.Declaration
