import Shortlist.Entity.Basic
import Shortlist.Rule.Compile
import Shortlist.Rule.Evaluate
/-! Compiled plans: the rules about the user, then the rules about the item. A plan is compiled
once and shared by every pair of user and item. -/
namespace Shortlist

structure Plan where
  userRules : List Rule := []
  itemRules : List Rule := []
deriving BEq

namespace Plan

def ofRules (rules : List Rule) : Plan :=
  { userRules := rules.filter (·.domain == .user)
    itemRules := rules.filter (·.domain == .item) }

/-- Rules without a domain are about the item. -/
def compile (ds : List Descriptor) : Except CompileError Plan :=
  (Descriptor.compileAll .item ds).map ofRules

def rules (p : Plan) : List Rule := p.userRules ++ p.itemRules

def size (p : Plan) : Nat := p.userRules.length + p.itemRules.length

def isEmpty (p : Plan) : Bool := p.userRules.isEmpty && p.itemRules.isEmpty

/-- True if every rule passes. The first rejection or error stops the evaluation. -/
def evaluate (p : Plan) (s : Scopes) : Except EvalError Bool := do
  if ← Rule.evaluateAll s p.userRules then Rule.evaluateAll s p.itemRules else return false

/-- Errors reject. -/
def accepts (p : Plan) (s : Scopes) : Bool :=
  match p.evaluate s with
  | .ok admitted => admitted
  | .error _ => false

/-- The decision on one candidate, and the candidate with its features exported. An empty plan
admits without looking. -/
def judge (p : Plan) (u : User) (i : Item) : Bool × Item :=
  if p.isEmpty then (true, i)
  else (p.accepts ⟨u.properties, i.features⟩, i.exported)

def retain (p : Plan) (u : User) (items : List Item) : List Item × List Item :=
  let decided := items.map (p.judge u)
  ((decided.filter (·.1)).map (·.2), decided.map (·.2))

end Plan
end Shortlist
