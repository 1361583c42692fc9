import Shortlist.Barrier.Basic
/-! A barrier in use, together with the loads that have been handed out and not yet ended. -/
namespace Shortlist

/-- Everything that can happen to a barrier. A load ends once, by completion or by being
dropped; only completion reports the count. -/
inductive BarrierEvent where
  | increment (n : UInt64)
  | decrement (n : UInt64)
  | register (n : UInt64)
  | claim (n : UInt64)
  | complete (load : Nat)
  | drop (load : Nat)
deriving DecidableEq, Repr

/-- A count, or the number of loads handed out; nothing; no such load, or no claim; or no answer,
since the call unwound. -/
inductive BarrierAnswer where
  | count (n : UInt64)
  | done
  | failed (e : LoadError)
  | absent
  | unwound
deriving DecidableEq, Repr

/-- How many loads can be handed out at once, which is `2 ^ 59 - 1`: each handle takes 16 bytes, and
no list may take more than `2 ^ 63 - 1`. -/
def handOutLimit : Nat := 0x7ffffffffffffff

/-- `held` tells for each load ever handed out, in order, whether it is still held. -/
structure BarrierSession where
  barrier : Barrier := {}
  held : List Bool := []
deriving DecidableEq, Repr

namespace BarrierSession

def answer : Except LoadError UInt64 → BarrierAnswer
  | .ok n => .count n
  | .error e => .failed e

/-- The loads are on the count of `barrier` before their handles are made. -/
def handOut (s : BarrierSession) (barrier : Barrier) (n : UInt64) :
    BarrierAnswer × BarrierSession :=
  if handOutLimit < n.toNat then (.unwound, { s with barrier })
  else (.count n, { barrier, held := s.held ++ List.replicate n.toNat true })

def isHeld (s : BarrierSession) (load : Nat) : Bool := s.held[load]?.getD false

def step (s : BarrierSession) : BarrierEvent → BarrierAnswer × BarrierSession
  | .increment n =>
    let (result, barrier) := s.barrier.increment n
    (answer result, { s with barrier })
  | .decrement n =>
    let (result, barrier) := s.barrier.decrement n
    (answer result, { s with barrier })
  | .register n =>
    match s.barrier.increment n with
    | (.ok _, barrier) => s.handOut barrier n
    | (.error e, barrier) => (.failed e, { s with barrier })
  | .claim n =>
    match s.barrier.claim? n with
    | some barrier => s.handOut barrier n
    | none => (.absent, s)
  | .complete load =>
    if s.isHeld load then
      let (result, barrier) := s.barrier.decrement 1
      (answer result, { barrier, held := s.held.set load false })
    else (.absent, s)
  | .drop load =>
    if s.isHeld load then
      (.done, { barrier := s.barrier.release, held := s.held.set load false })
    else (.absent, s)

def run (s : BarrierSession) : List BarrierEvent → BarrierSession
  | [] => s
  | e :: es => (s.step e).2.run es

end BarrierSession
end Shortlist
