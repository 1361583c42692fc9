import Shortlist.Number.Digits
/-! The load barrier: a count of outstanding loads with a completion that fires once. Loads are
registered up front, every end of a load takes one off, and the step to zero completes the phase
for good. A count below zero abandons it. -/
namespace Shortlist

/-- Nothing registered yet; loads outstanding; the count came to zero; the count would have gone
below zero. -/
inductive LoadPhase where
  | idle | loading | complete | aborted
deriving DecidableEq, Repr

def LoadPhase.name : LoadPhase → String
  | .idle => "idle"
  | .loading => "loading"
  | .complete => "complete"
  | .aborted => "aborted"

inductive WaitOutcome where
  | completed | timedOut | aborted
deriving DecidableEq, Repr

def WaitOutcome.name : WaitOutcome → String
  | .completed => "completed"
  | .timedOut => "timed_out"
  | .aborted => "aborted"

inductive LoadError where
  | underflow (pending requested : UInt64)
  | aborted
deriving DecidableEq, Repr

def LoadError.message : LoadError → String
  | .underflow pending requested =>
    "pending load count underflow: " ++ Number.intText pending.toNat ++ " pending, " ++
      Number.intText requested.toNat ++ " completed"
  | .aborted => "loading phase already aborted"

/-- The count is a machine word, and adding to it wraps around. `announced` is what has been
broadcast to waiters: idle until a phase is terminal. -/
structure Barrier where
  pending : UInt64 := 0
  phase : LoadPhase := .idle
  announced : LoadPhase := .idle
deriving DecidableEq, Repr

namespace Barrier

def isComplete (b : Barrier) : Bool := b.phase == .complete

def fire (b : Barrier) (phase : LoadPhase) : Barrier := { b with phase, announced := phase }

/-- After completion the count still moves, but nothing is armed again. -/
def increment (b : Barrier) (n : UInt64) : Except LoadError UInt64 × Barrier :=
  match b.phase with
  | .aborted => (.error .aborted, b)
  | .idle =>
    let phase := if 0 < n then LoadPhase.loading else .idle
    (.ok (b.pending + n), { b with pending := b.pending + n, phase })
  | .loading | .complete => (.ok (b.pending + n), { b with pending := b.pending + n })

def decrement (b : Barrier) (n : UInt64) : Except LoadError UInt64 × Barrier :=
  if b.phase = .aborted then (.error .aborted, b)
  else if b.pending < n then (.error (.underflow b.pending n), b.fire .aborted)
  else
    let left := { b with pending := b.pending - n }
    if left.pending = 0 ∧ left.phase = .loading then (.ok 0, left.fire .complete)
    else (.ok left.pending, left)

/-- Registers loads only while nothing was ever registered, so that of several callers at most
one claims the barrier. -/
def claim? (b : Barrier) (n : UInt64) : Option Barrier :=
  if b.phase ≠ .idle ∨ n = 0 then none
  else some { b with pending := b.pending + n, phase := .loading }

def release (b : Barrier) : Barrier := (b.decrement 1).2

/-- What a waiter decides that looks at the phase itself; none keeps it waiting. -/
def decision? (b : Barrier) : Option WaitOutcome :=
  match b.phase with
  | .complete => some .completed
  | .aborted => some .aborted
  | .idle | .loading => none

/-- What a waiter decides that only hears the broadcast. -/
def announcedDecision? (b : Barrier) : Option WaitOutcome :=
  match b.announced with
  | .complete => some .completed
  | .aborted => some .aborted
  | .idle | .loading => none

def waitOutcome (b : Barrier) : WaitOutcome := b.decision?.getD .timedOut

def announcedOutcome (b : Barrier) : WaitOutcome := b.announcedDecision?.getD .timedOut

end Barrier
end Shortlist
