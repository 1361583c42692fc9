import Shortlist.Rule.Basic
import Shortlist.Rule.Match
/-! Evaluating rules. A rule has no state: its outcome is a function of the properties alone. -/
namespace Shortlist

/-- A present property, or a referenced one, that does not have the declared type. -/
structure EvalError where
  property : String
  source : CoercionError
deriving DecidableEq, Repr

def EvalError.message (e : EvalError) : String :=
  "filter on '" ++ e.property ++ "': " ++ e.source.message

def Comparison.outcome (c : Comparison) (ty : ValueType) (actual expected : Value) :
    Except CoercionError Bool :=
  match c with
  | .equal => Match.equals ty actual expected
  | .notEqual => (Match.equals ty actual expected).map (!·)
  | .isIn => do
    let among ← expected.toList
    Match.member ty actual among
  | .notIn => do
    let among ← expected.toList
    (Match.member ty actual among).map (!·)
  | .contains => do
    let left ← actual.toList
    let right ← expected.toList
    Match.intersects ty left right
  | .notContains => do
    let left ← actual.toList
    let right ← expected.toList
    (Match.intersects ty left right).map (!·)
  | .atLeast => (Match.ordering ty actual expected).map fun o => o == some .gt || o == some .eq
  | .above => (Match.ordering ty actual expected).map (· == some .gt)
  | .atMost => (Match.ordering ty actual expected).map fun o => o == some .lt || o == some .eq
  | .below => (Match.ordering ty actual expected).map (· == some .lt)

/-- A target that is missing or null never passes. -/
def Leaf.evaluate (leaf : Leaf) (c : Comparison) (target : Properties) (s : Scopes) :
    Except EvalError Bool :=
  match target.present? leaf.property with
  | none => .ok false
  | some actual =>
    let expected := leaf.operand.resolve leaf.operandType s
    (c.outcome leaf.type actual expected).mapError (EvalError.mk leaf.property)

namespace Rule

mutual
/-- `target` holds the properties of the entity the rule is about; children look their own up
in the scopes. A presence check sees explicit nulls as present. -/
def evaluate (target : Properties) (s : Scopes) : Rule → Except EvalError Bool
  | .compare c leaf => leaf.evaluate c target s
  | .presence wanted property _ => .ok (target.contains property == wanted)
  | .combine .and _ children => evaluateAll s children
  | .combine .or _ children => evaluateAny s children

def evaluateAll (s : Scopes) : List Rule → Except EvalError Bool
  | [] => .ok true
  | r :: rs => do
    if ← evaluate (s.of r.domain) s r then evaluateAll s rs else return false

def evaluateAny (s : Scopes) : List Rule → Except EvalError Bool
  | [] => .ok false
  | r :: rs => do
    if ← evaluate (s.of r.domain) s r then return true else evaluateAny s rs
end

def verdict (s : Scopes) (r : Rule) : Except EvalError Bool := r.evaluate (s.of r.domain) s

end Rule
end Shortlist
