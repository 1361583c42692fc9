import Shortlist.Datum.Decode
import Shortlist.Properties
/-! Generic JSON trees and the values they hold. A value is written without a tag for its shape,
so its shape has to be found again in the tree. -/
namespace Shortlist

/-- A JSON tree. An object lists each key once. -/
inductive Json where
  | null
  | bool (b : Bool)
  | int (n : Int)
  | float (x : Float)
  | string (s : String)
  | array (items : List Json)
  | object (entries : List (String × Json))
deriving BEq, Inhabited

namespace Value

mutual
/-- A number that is not finite has no JSON form and becomes null. -/
def toJson : Value → Json
  | .null => .null
  | .bool b => .bool b
  | .int n => .int n.toInt
  | .float x => if Number.isFinite x then .float x else .null
  | .string s => .string s
  | .list items => .array (toJsonItems items)
  | .map entries => .object (toJsonEntries entries)

def toJsonItems : List Value → List Json
  | [] => []
  | v :: vs => toJson v :: toJsonItems vs

def toJsonEntries : List (String × Value) → List (String × Json)
  | [] => []
  | (k, v) :: es => (k, toJson v) :: toJsonEntries es
end

def ofInteger (n : Int) : Value :=
  if Number.inInt64 n then .int (Int64.ofInt n) else .float (Float.ofInt n)

mutual
def ofJson : Json → Value
  | .null => .null
  | .bool b => .bool b
  | .int n => ofInteger n
  | .float x => .float x
  | .string s => .string s
  | .array items => .list (ofJsonItems items)
  | .object entries => ofEntries (ofJsonEntries entries)

def ofJsonItems : List Json → List Value
  | [] => []
  | j :: js => ofJson j :: ofJsonItems js

def ofJsonEntries : List (String × Json) → List (String × Value)
  | [] => []
  | (k, j) :: es => (k, ofJson j) :: ofJsonEntries es
end

end Value

namespace Json

mutual
/-- The tree as it would have been read from text. -/
def toDatum : Json → Datum
  | .null => .null
  | .bool b => .bool b
  | .int n => .int n
  | .float x => .float x
  | .string s => .string s
  | .array items => .row (toDatumItems items)
  | .object entries => .map none (toDatumEntries entries)

def toDatumItems : List Json → List Datum
  | [] => []
  | j :: js => toDatum j :: toDatumItems js

def toDatumEntries : List (String × Json) → List (Datum × Datum)
  | [] => []
  | (k, j) :: es => (.string k, toDatum j) :: toDatumEntries es
end

/-- The last of several entries with one key wins. -/
def lastEntries (entries : List (String × Json)) : List (String × Json) :=
  (entries.foldl (fun m e => m.insert e.1 e.2) (∅ : Std.ExtTreeMap String Json)).toList

mutual
def ofDatum? (d : Datum) : Option Json :=
  match d with
  | .null => some .null
  | .bool b => some (.bool b)
  | .int n => some (.int n)
  | .float x => some (.float x)
  | .scalar _ _ s => some (.string s)
  | .row items | .seq _ items => (ofDatumItems? items).map .array
  | .map _ entries => (ofDatumEntries? entries).map (.object ∘ lastEntries)
  | .unreadable => none

def ofDatumItems? : List Datum → Option (List Json)
  | [] => some []
  | d :: ds => do
    let j ← ofDatum? d
    let js ← ofDatumItems? ds
    return j :: js

def ofDatumEntries? : List (Datum × Datum) → Option (List (String × Json))
  | [] => some []
  | (k, d) :: es => do
    let key ← k.string?
    let j ← ofDatum? d
    let rest ← ofDatumEntries? es
    return (key, j) :: rest
end

end Json
end Shortlist
