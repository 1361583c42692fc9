import Shortlist.Barrier.Basic
import Shortlist.Entity.Store
/-! Users and candidate items of one request. -/
namespace Shortlist

structure User where
  id : String
  store : Store := {}
  barrier : Barrier := {}

/-- `source` is the recall pipeline that proposed the item, if one did. -/
structure Item where
  id : String
  type? : Option String := none
  source? : Option String := none
  store : Store := {}
  barrier : Barrier := {}

def recallNameKey : String := "recall_name"

namespace User

def new (id : String) (properties : Properties := ∅) : User :=
  { id, store := { properties } }

/-- The copy keeps what is stored and waits on nothing. -/
def detach (u : User) : User := { u with barrier := {} }

def properties (u : User) : Properties := u.store.properties

end User

namespace Item

def fromRecall (id source : String) (score : Float) : Item :=
  { id, source? := some source, store := { score } }

def withProperties (i : Item) (properties : Properties) : Item :=
  { i with store := i.store.setMany properties }

def detach (i : Item) : Item := { i with barrier := {} }

def properties (i : Item) : Properties := i.store.properties

/-- Feature export: the score becomes a feature named for the recall source, unless there is one
of that name. The score of the first export stays. -/
def exported (i : Item) : Item :=
  match i.source? with
  | none => i
  | some source => { i with store := i.store.setAbsent source (.float i.store.score) }

def features (i : Item) : Properties := i.exported.properties

def addRecallName (i : Item) : Item :=
  match i.source? with
  | none => i
  | some source => { i with store := i.store.setAbsent recallNameKey (.string source) }

end Item
end Shortlist
