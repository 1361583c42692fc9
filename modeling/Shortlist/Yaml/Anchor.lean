import Shortlist.Yaml.Node
/-! Aliases are replaced by what they refer to. -/
namespace Shortlist.Yaml

/-! ### Numbers for names -/

abbrev Anchors := List (String × Nat)

/-- A new anchor is numbered by how many names there are, whether or not its name is among
them. So a name that is used again may share its number with the next new one. -/
def Anchors.declare (known : Anchors) : Option String → Option Nat × Anchors
  | some name =>
    let n := known.length
    (some n, (name, n) :: known.filter (·.1 != name))
  | none => (none, known)

namespace Node

mutual
/-- Numbers the anchors in the order of the text. An alias stands behind its anchor. -/
def bind? (known : Anchors) : Node String → Option (Node Nat × Anchors)
  | .alias name => (known.lookup name).map fun n => (.alias n, known)
  | .scalar name tag style text =>
    let (anchor, known) := known.declare name
    some (.scalar anchor tag style text, known)
  | .seq name tag items => do
    let (anchor, known) := known.declare name
    let (items, known) ← bindItems? known items
    return (.seq anchor tag items, known)
  | .map name tag entries => do
    let (anchor, known) := known.declare name
    let (entries, known) ← bindEntries? known entries
    return (.map anchor tag entries, known)

def bindItems? (known : Anchors) : List (Node String) → Option (List (Node Nat) × Anchors)
  | [] => some ([], known)
  | x :: xs => do
    let (x, known) ← bind? known x
    let (xs, known) ← bindItems? known xs
    return (x :: xs, known)

def bindEntries? (known : Anchors) : List (Node String × Node String) →
    Option (List (Node Nat × Node Nat) × Anchors)
  | [] => some ([], known)
  | (k, v) :: es => do
    let (k, known) ← bind? known k
    let (v, known) ← bind? known v
    let (es, known) ← bindEntries? known es
    return ((k, v) :: es, known)
end

mutual
def anchored (n : Node Nat) : List (Nat × Node Nat) :=
  match n with
  | .alias _ => []
  | .scalar anchor tag style text =>
    anchor.elim [] fun a => [(a, .scalar anchor tag style text)]
  | .seq anchor tag items =>
    (anchor.elim [] fun a => [(a, .seq anchor tag items)]) ++ anchoredItems items
  | .map anchor tag entries =>
    (anchor.elim [] fun a => [(a, .map anchor tag entries)]) ++ anchoredEntries entries

def anchoredItems : List (Node Nat) → List (Nat × Node Nat)
  | [] => []
  | x :: xs => anchored x ++ anchoredItems xs

def anchoredEntries : List (Node Nat × Node Nat) → List (Nat × Node Nat)
  | [] => []
  | (k, v) :: es => anchored k ++ anchored v ++ anchoredEntries es
end

mutual
def size : Node Nat → Nat
  | .alias _ => 1
  | .scalar .. => 1
  | .seq _ _ items => sizeItems items + 2
  | .map _ _ entries => sizeEntries entries + 2

def sizeItems : List (Node Nat) → Nat
  | [] => 0
  | x :: xs => size x + sizeItems xs

def sizeEntries : List (Node Nat × Node Nat) → Nat
  | [] => 0
  | (k, v) :: es => size k + size v + sizeEntries es
end

/-! ### Replacing aliases -/

/-- Follows an alias, which counts as one jump. Beyond the last jump there is nothing. -/
def follow? (table : List (Nat × Node Nat)) (jumps : Nat) : Node Nat → Option (Node Nat × Nat)
  | .alias n =>
    match jumps with
    | 0 => none
    | jumps + 1 => (table.lookup n).map (·, jumps)
  | n => some (n, jumps)

/-- The datum of a node with at most `depth` levels of collections and the jumps that are left.
What lies deeper, an alias inside of itself too, is unreadable. -/
def expand (table : List (Nat × Node Nat)) : Nat → Node Nat → StateM Nat Datum
  | depth, n => do
    match follow? table (← get) n with
    | none => return .unreadable
    | some (n, jumps) =>
      set jumps
      match n, depth with
      | .scalar _ tag style text, _ => return .scalar tag style text
      | .alias _, _ => return .unreadable
      | _, 0 => return .unreadable
      | .seq _ tag items, depth + 1 =>
        return .seq tag (← items.mapM (expand table depth))
      | .map _ tag entries, depth + 1 =>
        return .map tag (← entries.mapM fun e => do
          return (← expand table depth e.1, ← expand table depth e.2))
termination_by structural depth => depth

def maxDepth : Nat := 128

/-- An alias without an anchor before it is refused. The jumps are limited by the size. -/
def toDatum? (root : Node String) : Option Datum := do
  let (root, _) ← root.bind? []
  let table := root.anchored.reverse
  return (expand table maxDepth root (100 * root.size)).1

end Node
end Shortlist.Yaml
