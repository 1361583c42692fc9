import Shortlist.EntityKind
import Shortlist.Value.Basic
/-! A rule as it is written in a configuration, before anything in it has been checked. -/
namespace Shortlist

/-- `domain` is the entity whose properties the rule reads; a rule without one takes its
parent's. `type` names a value type, or `and` / `or` for a rule over `children`. A null `value`
is told apart from none. -/
structure Descriptor where
  name : String := ""
  domain : Option EntityKind := none
  operator : String := ""
  type : String := ""
  value : Option Value := none
  children : List Descriptor := []
deriving BEq, Inhabited

namespace Descriptor

def leaf (domain : EntityKind) (name operator type : String) (value : Value) : Descriptor :=
  { name, domain := some domain, operator, type, value := some value }

def presence (domain : EntityKind) (name operator : String) : Descriptor :=
  { name, domain := some domain, operator }

def combine (domain : EntityKind) (combinator : String) (children : List Descriptor) :
    Descriptor :=
  { domain := some domain, operator := "bool", type := combinator, children }

end Descriptor
end Shortlist
