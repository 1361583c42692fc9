import Shortlist.Number.Digits
/-! A binary floating-point number taken apart into sign, significand and power of two. -/
namespace Shortlist.Number

/-- The significand of a normal number has this bit, and the bits below are stored. -/
def hiddenBit : Nat := 0x10000000000000

/-- What the bits of a double say. A finite one is `significand * 2 ^ exponent`, up to its sign. -/
inductive Dyadic where
  | notANumber
  | infinite (negative : Bool)
  | finite (negative : Bool) (significand : Nat) (exponent : Int)

def Dyadic.ofFloat (x : Float) : Dyadic :=
  let bits := x.toBits.toNat
  let negative := decide (signBit ≤ bits)
  let field : Nat := bits / hiddenBit % 2048
  let fraction := bits % hiddenBit
  if field = 2047 then
    if fraction = 0 then .infinite negative else .notANumber
  else if field = 0 then .finite negative fraction (-1074)
  else .finite negative (hiddenBit + fraction) ((field : Int) - 1075)

def isFinite (x : Float) : Bool :=
  match Dyadic.ofFloat x with
  | .finite .. => true
  | _ => false

/-- The integer part, toward zero. Values outside the 64-bit range stop at its ends, and what is
not a number becomes zero. -/
def truncate (x : Float) : Int64 :=
  match Dyadic.ofFloat x with
  | .notANumber => 0
  | .infinite negative => if negative then Int64.minValue else Int64.maxValue
  | .finite negative m e =>
    let whole : Nat := if 0 ≤ e then m <<< e.natAbs else m >>> e.natAbs
    if negative then
      if signBit ≤ whole then Int64.minValue else Int64.ofInt (-whole)
    else if signBit ≤ whole then Int64.maxValue else Int64.ofInt whole

def order? (a b : Float) : Option Ordering :=
  if a < b then some .lt else if a == b then some .eq else if b < a then some .gt else none

end Shortlist.Number
