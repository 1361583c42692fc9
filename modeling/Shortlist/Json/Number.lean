import Shortlist.Datum.Basic
import Shortlist.Number.Digits
import Shortlist.Number.Decimal
import Shortlist.Number.Dyadic
/-! JSON numbers. The digits are gathered into one 64-bit word, further digits only count as
powers of ten, and the word is scaled once in floating point; so a long number may differ in its
last place from the nearest one. -/
namespace Shortlist.Json

/-- Digits as far as they fit a word, and how many were left over. -/
def gather (word : Nat) : List Char → Nat × Nat
  | [] => (word, 0)
  | c :: cs =>
    let next := 10 * word + Number.digitValue c
    if next < Number.word64Size then gather next cs else (word, (c :: cs).length)

def powerOfTen (k : Nat) : Float := Float.ofScientific 1 false k

/-- Scales by a power of ten within the table; beyond it, very small numbers go down in steps
until nothing is left, and large ones are out of range. -/
def scale (x : Float) (e : Int) : Option Float :=
  if e.natAbs ≤ 308 then
    if 0 ≤ e then
      let y := x * powerOfTen e.natAbs
      if Number.isFinite y then some y else none
    else some (x / powerOfTen e.natAbs)
  else if x == 0 then some x
  else if 0 ≤ e then none
  else scale (x / powerOfTen 308) (e + 308)
termination_by e.natAbs

def signedFloat (negative : Bool) (x : Float) : Float := if negative then -x else x

def scaled (negative : Bool) (word : Nat) (e : Int) : Datum :=
  match scale (Float.ofNat word) e with
  | some x => .float (signedFloat negative x)
  | none => .unreadable

/-- A whole number keeps its type if a signed word, or an unsigned one without a minus, holds it.
Minus zero is a number with a sign. -/
def whole (negative : Bool) (word : Nat) : Datum :=
  if !negative then .int word
  else if 0 < word && word ≤ Number.signBit then .int (-word)
  else .float (-Float.ofNat word)

/-- An exponent beyond any word makes the number zero or puts it out of range. -/
def withExponent (negative : Bool) (word : Nat) (e : Int) (down : Bool) (size : Nat) : Datum :=
  if size < 0x80000000 then scaled negative word (if down then e - size else e + size)
  else if word ≠ 0 ∧ !down then .unreadable
  else .float (signedFloat negative 0)

def finish (negative : Bool) (word : Nat) (e : Int) : List Char → Option (Datum × List Char)
  | [] => some (scaled negative word e, [])
  | c :: cs =>
    if c = 'e' ∨ c = 'E' then
      let (down, rest) := Number.splitSign cs
      let size := rest.takeWhile Number.isDigit
      if size.isEmpty then none
      else some (withExponent negative word e down (Number.ofDigits size),
        rest.dropWhile Number.isDigit)
    else some (scaled negative word e, c :: cs)

/-- The part after the whole digits, of which `dropped` did not fit. A point needs a digit. -/
def afterWhole (negative : Bool) (word dropped : Nat) : List Char → Option (Datum × List Char)
  | '.' :: cs =>
    let fraction := cs.takeWhile Number.isDigit
    if fraction.isEmpty then none
    else
      let (word, unused) := gather word fraction
      finish negative word (dropped - (fraction.length - unused : Nat))
        (cs.dropWhile Number.isDigit)
  | cs =>
    let floating := match cs with
      | c :: _ => c = 'e' || c = 'E'
      | [] => false
    if dropped = 0 && !floating then some (whole negative word, cs)
    else finish negative word dropped cs

def readUnsigned? (negative : Bool) (cs : List Char) : Option (Datum × List Char) :=
  let ds := cs.takeWhile Number.isDigit
  if ds.isEmpty || (ds.head? == some '0' && 1 < ds.length) then none
  else
    let (word, dropped) := gather 0 ds
    afterWhole negative word dropped (cs.dropWhile Number.isDigit)

def readNumber? : List Char → Option (Datum × List Char)
  | '-' :: cs => readUnsigned? true cs
  | cs => readUnsigned? false cs

end Shortlist.Json
