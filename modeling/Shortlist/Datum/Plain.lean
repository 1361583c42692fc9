import Shortlist.Datum.Basic
import Shortlist.Number.Decimal
import Shortlist.Number.Dyadic
/-! What an untagged bare word means when nobody asks for a particular type: null, a truth value,
an integer, a number, or else its own text. -/
namespace Shortlist.Datum

def isNullWord (s : String) : Bool := s == "null" || s == "Null" || s == "NULL" || s == "~"

def readBoolWord? : String → Option Bool
  | "true" | "True" | "TRUE" => some true
  | "false" | "False" | "FALSE" => some false
  | _ => none

def isSign (c : Char) : Bool := c = '+' || c = '-'

/-- A zero with more digits behind it is an identifier, not a number. -/
def isZeroPadded (cs : List Char) : Bool :=
  let body := match cs with
    | c :: r => if isSign c then r else cs
    | [] => []
  match body with
  | '0' :: r => !r.isEmpty && r.all Number.isDigit
  | _ => false

def radixDigit? (radix : Nat) (c : Char) : Option Nat :=
  let n := c.toNat
  let d :=
    if Number.isDigit c then n - 48
    else if 97 ≤ n && n ≤ 122 then n - 87
    else if 65 ≤ n && n ≤ 90 then n - 55
    else radix
  if d < radix then some d else none

def readRadix? (radix : Nat) : List Char → Option Nat
  | [] => none
  | cs => cs.foldl (fun acc c => do return (← acc) * radix + (← radixDigit? radix c)) (some 0)

def radixMark? : List Char → Option (Nat × List Char)
  | '0' :: 'x' :: r => some (16, r)
  | '0' :: 'o' :: r => some (8, r)
  | '0' :: 'b' :: r => some (2, r)
  | _ => none

/-- Signed integers in decimal, or in radix 16, 8 or 2 after a mark. -/
def readIntWord? (cs : List Char) : Option Int :=
  let (negative, rest) := Number.splitSign cs
  let marked := (radixMark? rest).bind fun m => readRadix? m.1 m.2
  match marked with
  | some n => some (Number.signed negative n)
  | none => if isZeroPadded cs then none else (readRadix? 10 rest).map (Number.signed negative)

/-- Finite decimals, and the words for infinity and not-a-number that begin with a point. -/
def readFloatWord? (s : String) : Option Float :=
  match s with
  | ".inf" | ".Inf" | ".INF" | "+.inf" | "+.Inf" | "+.INF" => some Number.infinity
  | "-.inf" | "-.Inf" | "-.INF" => some (-Number.infinity)
  | ".nan" | ".NaN" | ".NAN" => some Number.notANumber
  | _ =>
    match Number.readFloat? s.toList with
    | some x => if Number.isFinite x then some x else none
    | none => none

def widestInt : Nat := 0x80000000000000000000000000000000

/-- Integers may be as wide as an unsigned word; wider ones up to 128 bits have no reading at
all, and beyond that they are numbers like any other. -/
def ofInteger? (n : Int) : Option Datum :=
  if -Number.signBit ≤ n && n < Number.word64Size then some (.int n)
  else if -widestInt ≤ n && n < 2 * widestInt then some .unreadable
  else none

def ofNumberWord (s : String) : Datum :=
  match (readIntWord? s.toList).bind ofInteger? with
  | some d => d
  | none =>
    match readFloatWord? s with
    | some x => if isZeroPadded s.toList then string s else .float x
    | none => string s

def ofPlain (s : String) : Datum :=
  if s.isEmpty || isNullWord s then .null
  else match readBoolWord? s with
    | some b => .bool b
    | none => ofNumberWord s

def standardTag (name : String) : String := "tag:yaml.org,2002:" ++ name

def isLocalTag (tag : String) : Bool := tag.startsWith "!"

/-- A tagged scalar reads as its tag says or not at all; a tag nobody knows makes it text. -/
def ofTagged (tag : String) (s : String) : Datum :=
  if isLocalTag tag then .unreadable
  else if tag = standardTag "bool" then
    match readBoolWord? s with
    | some b => .bool b
    | none => .unreadable
  else if tag = standardTag "int" then
    match (readIntWord? s.toList).bind ofInteger? with
    | some d => d
    | none => .unreadable
  else if tag = standardTag "float" then
    match readFloatWord? s with
    | some x => .float x
    | none => .unreadable
  else if tag = standardTag "null" then
    if isNullWord s then .null else .unreadable
  else string s

/-- The datum as a value sees it: words have their meaning, local tags are refused. -/
def resolve : Datum → Datum
  | .scalar none .plain s => ofPlain s
  | .scalar none _ s => string s
  | .scalar (some tag) _ s => ofTagged tag s
  | .seq (some tag) items => if isLocalTag tag then .unreadable else .seq none items
  | .map (some tag) entries => if isLocalTag tag then .unreadable else .map none entries
  | d => d

end Shortlist.Datum
