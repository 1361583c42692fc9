import Shortlist.Value.Coercion
/-! Comparing two values on a type. Both sides are coerced first, the left one before the right
one, and the first failure is the outcome. -/
namespace Shortlist.Match

def floatEpsilon : Float := 1e-9

/-- Room for the binary form of decimals that are just one tolerance apart. -/
def decimalSlack : Float := 1e-12

def floatEq (a b : Float) : Bool := (a - b).abs ≤ floatEpsilon + decimalSlack

def equals (ty : ValueType) (a b : Value) : Except CoercionError Bool :=
  match ty with
  | .string | .list .string => do
    let x ← a.toText
    let y ← b.toText
    return x == y
  | .int | .list .int => do
    let x ← a.toInt
    let y ← b.toInt
    return x == y
  | .float | .list .float => do
    let x ← a.toFloat
    let y ← b.toFloat
    return floatEq x y
  | .bool => do
    let x ← a.toBool
    let y ← b.toBool
    return x == y

/-- Exact order, without tolerance; none when a side is not a number. -/
def ordering (ty : ValueType) (a b : Value) : Except CoercionError (Option Ordering) :=
  match ty with
  | .int => do
    let x ← a.toInt
    let y ← b.toInt
    return some (compare x.toInt y.toInt)
  | _ => do
    let x ← a.toFloat
    let y ← b.toFloat
    return Number.order? x y

def member (ty : ValueType) (needle : Value) : List Value → Except CoercionError Bool
  | [] => .ok false
  | v :: vs => do
    if ← equals ty.element needle v then return true
    member ty needle vs

def intersects (ty : ValueType) : List Value → List Value → Except CoercionError Bool
  | [], _ => .ok false
  | v :: vs, right => do
    if ← member ty v right then return true
    intersects ty vs right

end Shortlist.Match
