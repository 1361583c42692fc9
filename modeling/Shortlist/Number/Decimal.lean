import Shortlist.Number.Digits
/-! Decimal notation of binary floating-point numbers: an optional sign, digits with at most one
point, an optional power of ten, or the words for infinity and not-a-number in any case. -/
namespace Shortlist.Number

structure Decimal where
  coefficient : Nat
  exponent : Int

def readExponent? : List Char → Option Int
  | [] => some 0
  | c :: cs => if c = 'e' ∨ c = 'E' then readInt? cs else none

/-- A point may lead or close the digits, but one digit has to be there. -/
def readDecimal? (cs : List Char) : Option Decimal :=
  let whole := cs.takeWhile isDigit
  let afterWhole := cs.dropWhile isDigit
  let (fraction, rest) := match afterWhole with
    | '.' :: r => (r.takeWhile isDigit, r.dropWhile isDigit)
    | r => ([], r)
  if whole.isEmpty && fraction.isEmpty then none
  else (readExponent? rest).map fun e => ⟨ofDigits (whole ++ fraction), e - fraction.length⟩

def infinity : Float := Float.ofBits 0x7ff0000000000000

def notANumber : Float := Float.ofBits 0x7ff8000000000000

/-- The nearest number, a tie going to the even significand. Powers far outside the range decide
at once, so that no huge power of ten is computed. -/
def Decimal.nearest (d : Decimal) : Float :=
  let reach : Int := d.exponent + (digits d.coefficient).length
  if d.coefficient = 0 ∨ reach < -400 then 0
  else if 400 < reach then infinity
  else if d.exponent < 0 then Float.ofScientific d.coefficient true d.exponent.natAbs
  else Float.ofScientific d.coefficient false d.exponent.natAbs

def readMagnitude? (cs : List Char) : Option Float :=
  let word := cs.map Char.toLower
  if word = "inf".toList ∨ word = "infinity".toList then some infinity
  else if word = "nan".toList then some notANumber
  else (readDecimal? cs).map Decimal.nearest

def readFloat? (cs : List Char) : Option Float :=
  let (negative, rest) := splitSign cs
  (readMagnitude? rest).map fun x => if negative then -x else x

/-- As `Decimal.nearest`, among the numbers of single precision. -/
def Decimal.nearestSingle (d : Decimal) : Float :=
  let reach : Int := d.exponent + (digits d.coefficient).length
  if d.coefficient = 0 ∨ reach < -100 then 0
  else if 100 < reach then infinity
  else (Float32.ofScientific d.coefficient (d.exponent < 0) d.exponent.natAbs).toFloat

def readSingle? (cs : List Char) : Option Float :=
  let (negative, rest) := splitSign cs
  let word := rest.map Char.toLower
  let magnitude :=
    if word = "inf".toList ∨ word = "infinity".toList then some infinity
    else if word = "nan".toList then some notANumber
    else (readDecimal? rest).map Decimal.nearestSingle
  magnitude.map fun x => if negative then -x else x

end Shortlist.Number
