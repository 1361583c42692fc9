import Shortlist.Barrier.Session
import Shortlist.Feature.Fetch
import Shortlist.Feature.LoadConfig
/-! Feature loads in flight. A call registers all its loads before any fetcher starts, every
fetcher holds one load and gives it back however it ends, and the caller waits for the barrier to
come to zero. The order of the fetchers' steps is free. -/
namespace Shortlist

/-- Fetchers take as much room as the handles of loads, so each of them can have one. -/
structure Loader where
  fetchers : List Fetcher
  config : LoadConfig
  room : fetchers.length ≤ handOutLimit := by decide

structure LoadReport where
  outcome : WaitOutcome
  fetchers : Nat
  promoted : Nat
deriving DecidableEq, Repr

def LoadReport.isComplete (r : LoadReport) : Bool := r.outcome == .completed

structure FetchFailure where
  target : LoadTarget
  fetcher : String
  error : FetchError
deriving DecidableEq, Repr

/-- A call that has started its fetchers. `fresh?` is the barrier made for it, unless it claimed
the user's own. -/
structure LoadCall where
  target : LoadTarget
  loader : Loader
  fresh? : Option Barrier

inductive TaskState where
  | ready | hanging | ended
deriving DecidableEq, Repr

structure FetchTask where
  call : Nat
  target : LoadTarget
  fetcher : String
  rest : Program target
  state : TaskState := .ready

structure FetchSession where
  entities : Entities
  calls : List LoadCall := []
  tasks : List FetchTask := []
  failures : List FetchFailure := []

namespace FetchSession

def setUserBarrier (s : FetchSession) (b : Barrier) : FetchSession :=
  { s with entities := { s.entities with user := { s.entities.user with barrier := b } } }

def barrierOf (s : FetchSession) (call : Nat) : Barrier :=
  match s.calls[call]? with
  | some { fresh? := some b, .. } => b
  | _ => s.entities.user.barrier

def releaseLoad (s : FetchSession) (call : Nat) : FetchSession :=
  match s.calls[call]? with
  | some c =>
    match c.fresh? with
    | some b => { s with calls := s.calls.set call { c with fresh? := some b.release } }
    | none => s.setUserBarrier s.entities.user.barrier.release
  | none => s

def logStop (s : FetchSession) (target : LoadTarget) (fetcher : String) :
    Option FetchStop → FetchSession
  | some (.failed error) => { s with failures := s.failures ++ [{ target, fetcher, error }] }
  | _ => s

def spawn (s : FetchSession) (target : LoadTarget) (loader : Loader) (request : Request)
    (fresh? : Option Barrier) : FetchSession :=
  let call := s.calls.length
  { s with
    calls := s.calls ++ [{ target, loader, fresh? }]
    tasks := s.tasks ++ loader.fetchers.map fun f =>
      { call, target, fetcher := f.name, rest := f.program request s.entities target } }

def freshBarrier (n : UInt64) : Barrier := ((({} : Barrier)).increment n).2

/-- Only a user phase may claim the user's own barrier, and only while it is idle. -/
def start (s : FetchSession) (target : LoadTarget) (loader : Loader) (request : Request) :
    FetchSession :=
  let n := UInt64.ofNat loader.fetchers.length
  let fresh := freshBarrier n
  match target with
  | .items => s.spawn target loader request (some fresh)
  | .user =>
    match s.entities.user.barrier.claim? n with
    | some own => (s.setUserBarrier own).spawn target loader request none
    | none => s.spawn target loader request (some fresh)

def setTask (s : FetchSession) (k : Nat) (t : FetchTask) : FetchSession :=
  { s with tasks := s.tasks.set k t }

/-- A fetcher that ends gives its load back, whether it failed or not. -/
def endTask (s : FetchSession) (k : Nat) (t : FetchTask) (stop : Option FetchStop) :
    FetchSession :=
  ((s.setTask k { t with rest := .done, state := .ended }).logStop t.target t.fetcher
    stop).releaseLoad t.call

/-- One step of one fetcher. Hanging and ended fetchers take none. -/
def advance (s : FetchSession) (k : Nat) : FetchSession :=
  match s.tasks[k]? with
  | none => s
  | some t =>
    match t.state, t.rest with
    | .ready, .done => s.endTask k t none
    | .ready, .fail e => s.endTask k t (some (.failed e))
    | .ready, .panic => s.endTask k t (some .panicked)
    | .ready, .pause rest => s.setTask k { t with rest, state := .hanging }
    | .ready, .call a next =>
      { s with entities := (a.perform s.entities).2 }.setTask k
        { t with rest := next (a.perform s.entities).1 }
    | .hanging, _ | .ended, _ => s

def resume (s : FetchSession) (k : Nat) : FetchSession :=
  match s.tasks[k]? with
  | some t => if t.state = .hanging then s.setTask k { t with state := .ready } else s
  | none => s

def settleTask (s : FetchSession) (k : Nat) (t : FetchTask) : Program t.target → FetchSession
  | .done => s.endTask k t none
  | .fail e => s.endTask k t (some (.failed e))
  | .panic => s.endTask k t (some .panicked)
  | .pause rest => s.setTask k { t with rest, state := .hanging }
  | .call a next =>
    let rest := next (a.perform s.entities).1
    ({ s with entities := (a.perform s.entities).2 }.setTask k { t with rest }).settleTask k t rest

def settle (s : FetchSession) (k : Nat) : FetchSession :=
  match s.tasks[k]? with
  | some t => if t.state = .ready then s.settleTask k t t.rest else s
  | none => s

def settleAll (s : FetchSession) : FetchSession := (List.range s.tasks.length).foldl settle s

def releaseAll (s : FetchSession) : FetchSession :=
  ((List.range s.tasks.length).foldl resume s).settleAll

/-- Runs the fetchers one by one within the call. No barrier is involved. A panic unwinds through
the call, and no later fetcher runs. -/
def runInline (s : FetchSession) (target : LoadTarget) (request : Request) :
    List Fetcher → Bool × FetchSession
  | [] => (true, s)
  | f :: fs =>
    let (stop, entities) := (f.program request s.entities target).finish s.entities
    let s := { s with entities }.logStop target f.name stop
    if stop = some .panicked then (false, s) else s.runInline target request fs

def promote (s : FetchSession) (target : LoadTarget) (names : List String) : Nat × FetchSession :=
  match target with
  | .user =>
    let (copied, store) := s.entities.user.store.promoteMany names
    (copied, { s with entities.user.store := store })
  | .items =>
    let promoted := s.entities.items.map fun i => (i, i.store.promoteMany names)
    (promoted.foldl (fun n p => n + p.2.1) 0,
      { s with entities.items := promoted.map fun p => { p.1 with store := p.2.2 } })

def finish (s : FetchSession) (target : LoadTarget) (loader : Loader) (outcome : WaitOutcome) :
    LoadReport × FetchSession :=
  let (promoted, s) := s.promote target loader.config.promoted
  ({ outcome, fetchers := loader.fetchers.length, promoted }, s)

def nothingToLoad (s : FetchSession) (target : LoadTarget) (loader : Loader) : Bool :=
  loader.fetchers.isEmpty || (target == .items && s.entities.items.isEmpty)

def outcomeOf (s : FetchSession) (call : Nat) : WaitOutcome := (s.barrierOf call).announcedOutcome

/-- One call from start to end, the fetchers running in order. There is no report if it unwinds. -/
def load (s : FetchSession) (target : LoadTarget) (loader : Loader) (request : Request) :
    Option LoadReport × FetchSession :=
  if s.nothingToLoad target loader then (s.finish target loader .completed).map some id
  else if !loader.config.concurrent then
    match s.runInline target request loader.fetchers with
    | (true, s) => (s.finish target loader .completed).map some id
    | (false, s) => (none, s)
  else
    let call := s.calls.length
    let s := (s.start target loader request).settleAll
    (s.finish target loader (s.outcomeOf call)).map some id

def loadTwice (s : FetchSession) (loader : Loader) (request : Request) :
    Option (LoadReport × LoadReport) × FetchSession :=
  if s.nothingToLoad .user loader || !loader.config.concurrent then
    match s.load .user loader request with
    | (none, s) => (none, s)
    | (some first, s) => (s.load .user loader request).map (·.map (first, ·)) id
  else
    let call := s.calls.length
    let s := ((s.start .user loader request).start .user loader request).settleAll
    let (first, s) := s.finish .user loader (s.outcomeOf call)
    let (second, s) := s.finish .user loader (s.outcomeOf (call + 1))
    (some (first, second), s)

end FetchSession
end Shortlist
