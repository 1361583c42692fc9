import Shortlist.Properties
/-! What an entity holds: its active properties, batches of features not yet promoted, and the
scores of an item. -/
namespace Shortlist

structure Store where
  properties : Properties := ∅
  cache : Std.ExtTreeMap String Properties := ∅
  score : Float := 0
  algoScores : Std.ExtTreeMap String Float := ∅

namespace Store

def set (s : Store) (key : String) (v : Value) : Store :=
  { s with properties := s.properties.insert key v }

/-- The given entries override those that are there. -/
def setMany (s : Store) (entries : Properties) : Store :=
  { s with properties := s.properties.overlay entries }

def delete (s : Store) (key : String) : Store :=
  { s with properties := s.properties.erase key }

def deleteMany (s : Store) (keys : List String) : Store := keys.foldl delete s

def setAbsent (s : Store) (key : String) (v : Value) : Store :=
  { s with properties := s.properties.insertAbsent key v }

/-- The batch of a namespace; empty if nothing was ever put there. -/
def cached (s : Store) (namespaceName : String) : Properties := s.cache[namespaceName]?.getD ∅

/-- Adds to a namespace. What it held under other keys stays. -/
def addCached (s : Store) (namespaceName : String) (features : Properties) : Store :=
  { s with cache := s.cache.insert namespaceName ((s.cached namespaceName).overlay features) }

/-- Copies a namespace over the active properties, and tells how many keys that were. The
namespace itself stays, so a second promotion changes nothing. -/
def promote (s : Store) (namespaceName : String) : Nat × Store :=
  match s.cache[namespaceName]? with
  | none => (0, s)
  | some features => (features.size, s.setMany features)

def copyNamespace : Nat × Store → String → Nat × Store
  | (copied, s), namespaceName =>
    match s.cache[namespaceName]? with
    | some features =>
      (copied + features.size, { s with properties := s.properties.overlay features })
    | none => (copied, s)

/-- Promotes in order within one access, so the last namespace with a key decides its value. -/
def promoteMany (s : Store) (names : List String) : Nat × Store :=
  names.foldl copyNamespace (0, s)

def setScore (s : Store) (score : Float) : Store := { s with score }

def setAlgoScore (s : Store) (algo : String) (score : Float) : Store :=
  { s with algoScores := s.algoScores.insert algo score }

def addAlgoScore (s : Store) (algo : String) (delta : Float) : Store :=
  s.setAlgoScore algo (s.algoScores[algo]?.getD 0 + delta)

end Store
end Shortlist
