import Shortlist.Number.Digits
import Shortlist.Number.Dyadic
/-! The fewest decimal digits that read back as a given double, and its text in positional or
exponent notation. -/
namespace Shortlist.Number

/-- Where a value lies exactly between the two shortest candidates. -/
inductive Tie where
  | up
  | even

/-- A positive value and the ends of the interval that rounds to it, all over one denominator;
the ends belong to the interval when `closed` says so. -/
structure Interval where
  value : Nat
  low : Nat
  high : Nat
  denominator : Nat
  closed : Bool

/-- The interval of `m * 2 ^ e`. Its lower half is narrower just above a power of two. -/
def Interval.of (m : Nat) (e : Int) : Interval :=
  let below := if m = hiddenBit ∧ -1074 < e then 1 else 2
  let scale := if 2 ≤ e then 1 <<< (e - 2).natAbs else 1
  { value := 4 * m * scale
    low := (4 * m - below) * scale
    high := (4 * m + 2) * scale
    denominator := if 2 ≤ e then 1 else 1 <<< (2 - e).natAbs
    closed := m % 2 = 0 }

def Interval.holds (i : Interval) (numerator : Nat) : Bool :=
  if i.closed then i.low ≤ numerator && numerator ≤ i.high
  else i.low < numerator && numerator < i.high

/-- The multiple of `10 ^ k` in the interval that is nearest to the value. Only the two around
the value can be, for if any multiple lies in the interval, one of these does. -/
def Interval.onGrid (i : Interval) (tie : Tie) (k : Int) : Option Nat :=
  let stretch := if k < 0 then Nat.pow 10 k.natAbs else 1
  let i := { i with
    value := i.value * stretch
    low := i.low * stretch
    high := i.high * stretch }
  let grid := i.denominator * (if k < 0 then 1 else Nat.pow 10 k.natAbs)
  let c := i.value / grid
  match i.holds (c * grid), i.holds ((c + 1) * grid) with
  | false, false => none
  | true, false => some c
  | false, true => some (c + 1)
  | true, true =>
    let lower := i.value - c * grid
    let upper := (c + 1) * grid - i.value
    if lower < upper then some c
    else if upper < lower then some (c + 1)
    else match tie with
      | .up => some (c + 1)
      | .even => if c % 2 = 0 then some c else some (c + 1)

def Interval.search (i : Interval) (tie : Tie) (k : Int) : Nat → Nat × Int
  | 0 => (i.value / i.denominator, 0)
  | steps + 1 =>
    match i.onGrid tie k with
    | some c => (c, k)
    | none => i.search tie (k - 1) steps

/-- Coefficient and power of ten of the shortest decimal for `m * 2 ^ e` with `m` positive. The
first grid is no finer than the value; seventeen digits always suffice. -/
def shortest (tie : Tie) (m : Nat) (e : Int) : Nat × Int :=
  let i := Interval.of m e
  let start : Int :=
    if i.denominator ≤ i.value then (digits (i.value / i.denominator)).length
    else 2 - ((digits (i.denominator / i.value)).length : Int)
  i.search tie start 24

def zeros (n : Nat) : List Char := List.replicate n '0'

def positional (coefficient : Nat) (exponent : Int) : List Char :=
  let ds := digits coefficient
  if 0 ≤ exponent then ds ++ zeros exponent.natAbs
  else if exponent.natAbs < ds.length then
    ds.take (ds.length - exponent.natAbs) ++ '.' :: ds.drop (ds.length - exponent.natAbs)
  else ['0', '.'] ++ zeros (exponent.natAbs - ds.length) ++ ds

/-- The text of a number in values and messages: shortest digits, always positional, a tie going
up, the sign of zero kept. -/
def floatText (x : Float) : String :=
  String.ofList <| match Dyadic.ofFloat x with
    | .notANumber => "NaN".toList
    | .infinite negative => if negative then "-inf".toList else "inf".toList
    | .finite negative m e =>
      let body := if m = 0 then ['0'] else
        let (c, k) := shortest .up m e
        positional c k
      if negative then '-' :: body else body

end Shortlist.Number
