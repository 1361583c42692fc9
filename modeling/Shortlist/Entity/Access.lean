import Shortlist.Entity.Basic
/-! Accesses to users and items from outside. Each one holds the lock of its entity from start to
end, so accesses interleave but never overlap, and each one tells its caller something. -/
namespace Shortlist

inductive StoreOp where
  | get (key : String)
  | contains (key : String)
  | snapshot
  | duplicate
  | cached (namespaceName : String)
  | namespaces
  | set (key : String) (v : Value)
  | setMany (entries : Properties)
  | delete (key : String)
  | deleteMany (keys : List String)
  | addCached (namespaceName : String) (features : Properties)
  | promote (namespaceName : String)
  | promoteMany (names : List String)

namespace StoreOp

def Answer : StoreOp → Type
  | .get _ => Option Value
  | .contains _ => Bool
  | .snapshot | .cached _ => Properties
  | .duplicate => Store
  | .namespaces => List String
  | .promote _ | .promoteMany _ => Nat
  | .set .. | .setMany _ | .delete _ | .deleteMany _ | .addCached .. => Unit

def perform (s : Store) : (op : StoreOp) → op.Answer × Store
  | .get key => (s.properties[key]?, s)
  | .contains key => (s.properties.contains key, s)
  | .snapshot => (s.properties, s)
  | .duplicate => (s, s)
  | .cached name => (s.cached name, s)
  | .namespaces => (s.cache.keys, s)
  | .set key v => ((), s.set key v)
  | .setMany entries => ((), s.setMany entries)
  | .delete key => ((), s.delete key)
  | .deleteMany keys => ((), s.deleteMany keys)
  | .addCached name features => ((), s.addCached name features)
  | .promote name => s.promote name
  | .promoteMany names => s.promoteMany names

end StoreOp

/-- Scores, which only items have, share the lock of the item's store. -/
inductive ItemOp where
  | store (op : StoreOp)
  | score
  | algoScore (algo : String)
  | algoScores
  | setScore (score : Float)
  | setAlgoScore (algo : String) (score : Float)
  | addAlgoScore (algo : String) (delta : Float)
  | features
  | addRecallName

namespace ItemOp

def Answer : ItemOp → Type
  | .store op => op.Answer
  | .score => Float
  | .algoScore _ => Option Float
  | .algoScores => Std.ExtTreeMap String Float
  | .features => Properties
  | .setScore _ | .setAlgoScore .. | .addAlgoScore .. | .addRecallName => Unit

def perform (i : Item) : (op : ItemOp) → op.Answer × Item
  | .store op =>
    let (answer, after) := op.perform i.store
    (answer, { i with store := after })
  | .score => (i.store.score, i)
  | .algoScore algo => (i.store.algoScores[algo]?, i)
  | .algoScores => (i.store.algoScores, i)
  | .setScore x => ((), { i with store := i.store.setScore x })
  | .setAlgoScore algo x => ((), { i with store := i.store.setAlgoScore algo x })
  | .addAlgoScore algo delta => ((), { i with store := i.store.addAlgoScore algo delta })
  | .features => (i.features, i.exported)
  | .addRecallName => ((), i.addRecallName)

end ItemOp

/-- Registering loads is an increment, and the end of one of them a decrement by one. -/
inductive BarrierOp where
  | pending
  | phase
  | increment (n : UInt64)
  | decrement (n : UInt64)
  | claim (n : UInt64)

namespace BarrierOp

def Answer : BarrierOp → Type
  | .pending => UInt64
  | .phase => LoadPhase
  | .increment _ | .decrement _ => Except LoadError UInt64
  | .claim _ => Bool

def perform (b : Barrier) : (op : BarrierOp) → op.Answer × Barrier
  | .pending => (b.pending, b)
  | .phase => (b.phase, b)
  | .increment n => b.increment n
  | .decrement n => b.decrement n
  | .claim n => ((b.claim? n).isSome, (b.claim? n).getD b)

end BarrierOp

end Shortlist
