import Shortlist.Entity.Access
/-! Feature fetchers. A fetcher is a program of its own that reads and writes the entities of a
request one access at a time. -/
namespace Shortlist

/-- What a fetcher reports when it fails. It is logged and never reaches the request. -/
inductive FetchError where
  | unavailable (text : String)
  | malformed (text : String)
  | property (source : PropertyError)
deriving DecidableEq, Repr

def FetchError.message : FetchError → String
  | .unavailable text => "source unavailable: " ++ text
  | .malformed text => "malformed feature payload: " ++ text
  | .property source => source.message

structure Request where
  scene : String
  params : Std.ExtTreeMap String String := ∅

inductive LoadTarget where
  | user | items
deriving DecidableEq, Repr

def LoadTarget.name : LoadTarget → String
  | .user => "user"
  | .items => "items"

structure Entities where
  user : User
  items : List Item

/-- One access of a fetcher. Items are numbered by their place in the batch, and a user phase has
no batch. -/
inductive Access : LoadTarget → Type where
  | user {target : LoadTarget} (op : StoreOp) : Access target
  | userBarrier {target : LoadTarget} (op : BarrierOp) : Access target
  | item (place : Nat) (op : ItemOp) : Access .items
  | itemBarrier (place : Nat) (op : BarrierOp) : Access .items

/-- What a batch holds at a place; past its end there is nobody to write to. -/
def Entities.item (e : Entities) (place : Nat) : Item := e.items[place]?.getD { id := "" }

namespace Access
variable {target : LoadTarget}

def Answer : Access target → Type
  | .user op => op.Answer
  | .userBarrier op => op.Answer
  | .item _ op => op.Answer
  | .itemBarrier _ op => op.Answer

def perform (e : Entities) : (a : Access target) → a.Answer × Entities
  | .user op =>
    let (answer, store) := op.perform e.user.store
    (answer, { e with user := { e.user with store } })
  | .userBarrier op =>
    let (answer, barrier) := op.perform e.user.barrier
    (answer, { e with user := { e.user with barrier } })
  | .item place op =>
    let (answer, i) := op.perform (e.item place)
    (answer, { e with items := e.items.set place i })
  | .itemBarrier place op =>
    let (answer, barrier) := op.perform (e.item place).barrier
    (answer, { e with items := e.items.set place { e.item place with barrier } })

end Access

/-- What is left of a fetcher: it has returned, failed or panicked; it waits until it is let go on;
or it makes an access and goes on by what it is told. Whatever else it consults is part of the
program. One that never ends is, at any moment of a history, like one that pauses for good later. -/
inductive Program (target : LoadTarget) where
  | done
  | fail (e : FetchError)
  | panic
  | pause (next : Program target)
  | call (a : Access target) (next : a.Answer → Program target)

inductive FetchStop where
  | failed (e : FetchError)
  | panicked
deriving DecidableEq, Repr

namespace Program
variable {target : LoadTarget}

/-- A whole program without interruption, and how it stopped if it did not return. -/
def finish (e : Entities) : Program target → Option FetchStop × Entities
  | .done => (none, e)
  | .fail err => (some (.failed err), e)
  | .panic => (some .panicked, e)
  | .pause next => next.finish e
  | .call a next => (next (a.perform e).1).finish (a.perform e).2

end Program

structure ItemHead where
  id : String
  type? : Option String
  source? : Option String

def Item.head (i : Item) : ItemHead := { id := i.id, type? := i.type?, source? := i.source? }

/-- A user is known to a fetcher by its id from the start, and a batch by the heads of its items.
Most fetchers do nothing for items. -/
structure Fetcher where
  name : String
  forUser : Request → String → Program .user
  forItems : Request → String → List ItemHead → Program .items := fun _ _ _ => .done

def Fetcher.program (f : Fetcher) (request : Request) (e : Entities) :
    (target : LoadTarget) → Program target
  | .user => f.forUser request e.user.id
  | .items => f.forItems request e.user.id (e.items.map (·.head))

end Shortlist
