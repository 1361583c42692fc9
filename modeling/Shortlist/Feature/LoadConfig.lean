/-! Settings of a feature load. -/
namespace Shortlist

/-- `timeoutMs` bounds the wait for the whole phase. The namespaces are promoted after it, in
order. Without `concurrent` the fetchers run one by one. -/
structure LoadConfig where
  timeoutMs : Nat := 100
  promoted : List String := []
  concurrent : Bool := true
deriving DecidableEq, Repr

namespace LoadConfig

def ofTimeout (timeoutMs : Nat) : LoadConfig := { timeoutMs }

def withPromoted (c : LoadConfig) (names : List String) : LoadConfig := { c with promoted := names }

end LoadConfig

def wholeSeconds (ms : Nat) : Nat := ms / 1000

end Shortlist
