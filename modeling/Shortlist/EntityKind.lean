/-! The two kinds of entities that take part in a request. -/
namespace Shortlist

inductive EntityKind where
  | user | item
deriving DecidableEq, Repr

def EntityKind.name : EntityKind → String
  | .user => "user"
  | .item => "item"

def EntityKind.parse? : String → Option EntityKind
  | "user" => some .user
  | "item" => some .item
  | _ => none

end Shortlist
