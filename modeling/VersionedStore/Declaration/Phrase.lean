import VersionedStore.Declaration.Token

/-!
# Phrases

A phrase says which trees may stand at the front of a list, and how they are written again. Where it
goes on in more than one way, tests of the next trees or of those before decide, so that no way is
taken back. Phrases name each other through rules.
-/

namespace VersionedStore.Declaration

namespace Tree

/-- Is the tree this word? -/
def isWord (s : String) : Tree → Bool
  | .word w => w == s
  | _ => false

/-- Is the tree one of these words? -/
def isWordOf (words : List String) : Tree → Bool
  | .word w => words.contains w
  | _ => false

/-- Is the tree any word? -/
def isAnyWord : Tree → Bool
  | .word _ => true
  | _ => false

/-- Is the tree a lifetime? -/
def isLifetime : Tree → Bool
  | .lifetime _ => true
  | _ => false

/-- Is the tree this mark? -/
def isMark (c : Char) : Tree → Bool
  | .mark d _ => d == c
  | _ => false

/-- Is the tree this mark, with another one right behind it? -/
def isJoint (c : Char) : Tree → Bool
  | .mark d joint => d == c && joint
  | _ => false

/-- Is the tree a group between these delimiters? -/
def isGroup (d : Delimiter) : Tree → Bool
  | .group e _ => d == e
  | _ => false

/-- Is the tree a literal, true or false? -/
def isLiteral : Tree → Bool
  | .literal .. => true
  | t => isWordOf ["true", "false"] t

end Tree

/-- Tests of the next trees, each its own. -/
abbrev Lookahead := List (Tree → Bool)

/-- Do the first trees pass the tests? -/
def Lookahead.holds : Lookahead → List Tree → Bool
  | [], _ => true
  | _ :: _, [] => false
  | test :: tests, t :: ts => test t && Lookahead.holds tests ts

/-- The tests for marks that stand together. -/
def marks : List Char → Lookahead
  | [] => []
  | [c] => [Tree.isMark c]
  | c :: cs => Tree.isJoint c :: marks cs

/-- What may stand at the front of a list of trees; `ρ` names the rules. What a phrase takes is
mostly written as it stands. -/
inductive Phrase (ρ : Type) where
  /-- No tree at all. -/
  | nothing
  /-- A tree that passes a test. -/
  | tree (test : Tree → Bool)
  /-- A group whose content is the phrase. -/
  | within (d : Delimiter) (content : Phrase ρ)
  /-- The phrase any number of times with commas between, up to the end; one more comma may follow.
  -/
  | items (item : Phrase ρ)
  /-- The phrase any number of times with commas between, up to a closing angle; one more comma may
  follow. Lifetimes are written before the others. -/
  | arguments (item : Phrase ρ)
  /-- One phrase and then another. -/
  | andThen (first second : Phrase ρ)
  /-- One phrase if the next trees pass the tests, else another. -/
  | choice (ahead : Lookahead) (yes no : Phrase ρ)
  /-- A phrase, and then one of two by what it wrote. -/
  | behind (first : Phrase ρ) (test : List Tree → Bool) (yes no : Phrase ρ)
  /-- The phrase as long as the next trees pass the tests. -/
  | many (ahead : Lookahead) (item : Phrase ρ)
  /-- The phrase, which is written another way. -/
  | rewritten (p : Phrase ρ) (change : List Tree → List Tree)
  /-- The phrase, all of which is written as it stands. -/
  | verbatim (p : Phrase ρ)
  /-- The phrase of a rule. -/
  | rule (name : ρ)

/-- The lifetimes that arguments begin with, a comma behind each of them, and the other
arguments. -/
def leadingLifetimes : List Tree → List Tree × List Tree
  | .lifetime name :: .mark ',' joint :: ts =>
    let (lifetimes, others) := leadingLifetimes ts
    (.lifetime name :: .mark ',' joint :: lifetimes, others)
  | [.lifetime name] => ([.lifetime name, .mark ',' false], [])
  | ts => ([], ts)

/-- Arguments with one more, and its comma, before them: in front if it is a lifetime, else behind
their lifetimes. -/
def putArgument (argument comma : List Tree) (others : List Tree) : List Tree :=
  match argument with
  | [.lifetime name] => .lifetime name :: comma ++ others
  | _ => (leadingLifetimes others).1 ++ argument ++ comma ++ (leadingLifetimes others).2

namespace Phrase

variable {ρ : Type}

/-- What the phrase writes and what it leaves of the trees, if it stands at their front. Each round
follows one phrase. -/
def pass? (rules : ρ → Phrase ρ) : Nat → Phrase ρ → List Tree → Option (List Tree × List Tree)
  | 0, _, _ => none
  | n + 1, p, ts =>
    match p with
    | .nothing => some ([], ts)
    | .tree test =>
      match ts with
      | [] => none
      | t :: rest => if test t then some ([t], rest) else none
    | .within d content =>
      match ts with
      | .group e inner :: rest =>
        if d = e then
          match pass? rules n content inner with
          | some (written, []) => some ([.group e written], rest)
          | _ => none
        else none
      | _ => none
    | .items item =>
      match ts with
      | [] => some ([], [])
      | _ :: _ => do
        let (first, rest) ← pass? rules n item ts
        match rest with
        | [] => some (first, [])
        | .mark ',' joint :: rest =>
          let (others, rest) ← pass? rules n (.items item) rest
          some (first ++ .mark ',' joint :: others, rest)
        | _ => none
    | .arguments item =>
      match ts with
      | .mark '>' _ :: _ => some ([], ts)
      | _ => do
        let (first, rest) ← pass? rules n item ts
        match rest with
        | .mark '>' _ :: _ => some (first, rest)
        | .mark ',' joint :: rest =>
          let (others, rest) ← pass? rules n (.arguments item) rest
          some (putArgument first [.mark ',' joint] others, rest)
        | _ => none
    | .andThen first second => do
      let (a, rest) ← pass? rules n first ts
      let (b, rest) ← pass? rules n second rest
      some (a ++ b, rest)
    | .choice ahead yes no => if ahead.holds ts then pass? rules n yes ts else pass? rules n no ts
    | .behind first test yes no => do
      let (a, rest) ← pass? rules n first ts
      let (b, rest) ← pass? rules n (if test a then yes else no) rest
      some (a ++ b, rest)
    | .many ahead item =>
      if ahead.holds ts then do
        let (a, rest) ← pass? rules n item ts
        let (b, rest) ← pass? rules n (.many ahead item) rest
        some (a ++ b, rest)
      else some ([], ts)
    | .rewritten p change => (pass? rules n p ts).map fun r ↦ (change r.1, r.2)
    | .verbatim p => (pass? rules n p ts).map fun r ↦ (ts.take (ts.length - r.2.length), r.2)
    | .rule name => pass? rules n (rules name) ts

/-- No trees fit. -/
def never : Phrase ρ := .tree fun _ ↦ false

/-- Phrases one after the other. -/
def all : List (Phrase ρ) → Phrase ρ
  | [] => .nothing
  | [p] => p
  | p :: ps => .andThen p (all ps)

/-- The first phrase whose tests the next trees pass. -/
def firstOf (ways : List (Lookahead × Phrase ρ)) (otherwise : Phrase ρ) : Phrase ρ :=
  ways.foldr (fun way rest ↦ .choice way.1 way.2 rest) otherwise

/-- The phrase if the next trees pass the tests. -/
def optional (ahead : Lookahead) (p : Phrase ρ) : Phrase ρ := .choice ahead p .nothing

/-- The phrase, in place of which these trees are written. -/
def instead (p : Phrase ρ) (written : List Tree) : Phrase ρ := .rewritten p fun _ ↦ written

/-- One tree for each test. -/
def taking (ahead : Lookahead) : Phrase ρ := all (ahead.map .tree)

/-- This word. -/
def word (s : String) : Phrase ρ := .tree (Tree.isWord s)

/-- These marks together. -/
def sign (s : String) : Phrase ρ := taking (marks s.toList)

/-- A group between these delimiters, whatever it holds. -/
def anyGroup (d : Delimiter) : Phrase ρ := .tree (Tree.isGroup d)

/-- A mark, whatever stands behind it. -/
def mark (c : Char) : Phrase ρ := .tree (Tree.isMark c)

/-- This word, if it comes next. -/
def optionalWord (s : String) : Phrase ρ := optional [Tree.isWord s] (word s)

/-- The phrase, unless the trees are at their end. -/
def unlessEnded (p : Phrase ρ) : Phrase ρ := optional [fun _ ↦ true] p

/-- The end of the trees, or a comma and then the phrase. -/
def more (p : Phrase ρ) : Phrase ρ := unlessEnded (all [mark ',', p])

/-- Rounds enough for trees: each tree is met by far fewer phrases. -/
def rounds (ts : List Tree) : Nat := 1024 * (Tree.sizeAll ts + 1)

/-- What the phrase writes for the trees that it takes from the front, and those that it leaves. -/
def split? (rules : ρ → Phrase ρ) (p : Phrase ρ) (ts : List Tree) :
    Option (List Tree × List Tree) :=
  pass? rules (rounds ts) p ts

end Phrase

end VersionedStore.Declaration
