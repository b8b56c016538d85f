import VersionedStore.Declaration.Grammar.Items
import VersionedStore.Declaration.Grammar.Patterns
import VersionedStore.Declaration.Grammar.Statements

/-!
# The grammar of declarations

Every rule with its phrase, and what a type, a path and an expression take from the front of trees.
-/

namespace VersionedStore.Declaration

/-- What a rule says. -/
def Rule.phrase : Rule → Phrase Rule
  | .attributes => attributesPhrase
  | .attributeContent => attributeContentPhrase
  | .simplePath => simplePathPhrase
  | .path style => pathPhrase style
  | .pathRest style => pathRestPhrase style
  | .segment style => segmentPhrase style
  | .qualified style => qualifiedPhrase style
  | .type sums => typePhrase sums
  | .argument => argumentPhrase
  | .functionTypeItems isFirst => functionTypeItemsPhrase isFirst
  | .bound place => boundPhrase place
  | .bounds => boundsPhrase
  | .sum place => sumPhrase place
  | .mixedBounds place sums => mixedBoundsPhrase place sums
  | .binderItems => binderItemsPhrase
  | .lifetimeBounds => lifetimeBoundsPhrase
  | .parameter anonymous => parameterPhrase anonymous
  | .generics => genericsPhrase
  | .predicates => predicatesPhrase
  | .conditions => conditionsPhrase
  | .expression literals => expressionPhrase literals
  | .climbing literals base => climbingPhrase literals base
  | .operators literals base compared => operatorsPhrase literals base compared
  | .operand literals => operandPhrase literals
  | .atom literals => atomPhrase literals
  | .fieldValues => fieldValuesPhrase
  | .postfixes => postfixesPhrase
  | .conditional => conditionalPhrase
  | .closure literals => closurePhrase literals
  | .closureItems => closureItemsPhrase
  | .blockLike => blockLikePhrase
  | .arms => armsPhrase
  | .pattern => patternPhrase
  | .alternatives => alternativesPhrase
  | .cases => casesPhrase
  | .limit => limitPhrase
  | .fieldPatterns => fieldPatternsPhrase
  | .statements => statementsPhrase
  | .visibility => visibilityPhrase
  | .item => itemPhrase
  | .itemBody isPrivate => itemBodyPhrase isPrivate
  | .functionItems isFirst => functionItemsPhrase isFirst
  | .function => functionPhrase
  | .useTree roots => useTreePhrase roots
  | .namedField => namedFieldPhrase
  | .fieldType anonymous => fieldTypePhrase anonymous
  | .tupleField => tupleFieldPhrase
  | .member place => memberPhrase place
  | .memberBody place macros => memberBodyPhrase place macros
  | .macroItem => macroItemPhrase true

/-- What a rule writes for the trees that it takes from the front, and those that it leaves. -/
def Rule.split? (r : Rule) (ts : List Tree) : Option (List Tree × List Tree) :=
  Phrase.split? Rule.phrase (.rule r) ts

/-- What a rule writes for the trees, if it takes them all. -/
def Rule.whole? (r : Rule) (ts : List Tree) : Option (List Tree) :=
  match r.split? ts with
  | some (written, []) => some written
  | _ => none

/-- The type at the front of trees. -/
def type? : List Tree → Option (List Tree × List Tree) := Rule.split? (.type true)

/-- The expression at the front of trees. -/
def expression? : List Tree → Option (List Tree × List Tree) := Rule.split? (.expression true)

/-- The name at the front of trees. -/
def name? : List Tree → Option (String × List Tree)
  | .word w :: rest => if Tree.isName (.word w) then some (w, rest) else none
  | _ => none

/-- A name is taken from the front. -/
theorem name?_word {w : String} (h : Tree.isName (.word w) = true) (rest : List Tree) :
    name? (.word w :: rest) = some (w, rest) := by simp [name?, h]

/-- What commas separate, up to the end; one more may follow. Anything else between is answered by
`stop`. -/
def separated {m : Type → Type} [Monad m] {α : Type} (stop : m (List α))
    (read : List Tree → m (α × List Tree)) : Nat → List Tree → m (List α)
  | _, [] => pure []
  | 0, _ => stop
  | n + 1, ts => do
    let (a, rest) ← read ts
    match rest with
    | [] => pure [a]
    | .mark ',' _ :: rest => return a :: (← separated stop read n rest)
    | _ => stop

end VersionedStore.Declaration
