import Shortlist.EntityKind
import Shortlist.Properties
import Shortlist.Rule.Operator
/-! Compiled rules: trees of comparisons and presence checks. -/
namespace Shortlist

structure Scopes where
  user : Properties
  item : Properties

def Scopes.of (s : Scopes) : EntityKind → Properties
  | .user => s.user
  | .item => s.item

/-- The right-hand side of a comparison: a constant of the operand's type, or a property read
anew at each evaluation. -/
inductive Operand where
  | literal (v : Value)
  | reference (scope : EntityKind) (key : String)
deriving BEq

namespace Operand

def keyAfter? (lead : String) (s : String) : Option String :=
  let cs := s.toList
  if lead.toList.isPrefixOf cs && lead.length < cs.length then
    some (String.ofList (cs.drop lead.length))
  else none

/-- Text that names a property of the user or the item is a reference, all else a constant. -/
def parse : Value → Operand
  | .string s =>
    match keyAfter? "user." s with
    | some key => .reference .user key
    | none =>
      match keyAfter? "item." s with
      | some key => .reference .item key
      | none => .literal (.string s)
  | v => .literal v

/-- A reference to nothing, or to an explicit null, is the zero value of its type. -/
def resolve (ty : ValueType) (s : Scopes) : Operand → Value
  | .literal v => v
  | .reference scope key =>
    match (s.of scope).present? key with
    | some v => v
    | none => .zeroOf ty

end Operand

/-- `operandType` is the type the operand has been coerced to; for membership it is a list. -/
structure Leaf where
  property : String
  domain : EntityKind
  type : ValueType
  operandType : ValueType
  operand : Operand
deriving BEq

inductive Rule where
  | compare (c : Comparison) (leaf : Leaf)
  | presence (wanted : Bool) (property : String) (domain : EntityKind)
  | combine (c : Combinator) (domain : EntityKind) (children : List Rule)
deriving BEq

namespace Rule

def domain : Rule → EntityKind
  | .compare _ leaf => leaf.domain
  | .presence _ _ domain => domain
  | .combine _ domain _ => domain

def operator : Rule → Operator
  | .compare c _ => .compare c
  | .presence wanted _ _ => .presence wanted
  | .combine .. => .combine

def property? : Rule → Option String
  | .compare _ leaf => some leaf.property
  | .presence _ property _ => some property
  | .combine .. => none

end Rule
end Shortlist
