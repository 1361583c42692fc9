import Shortlist.Datum.Decode
import Shortlist.Properties
/-! Reading a value from a datum without being told its shape: each shape is tried in turn, in
the order null, truth value, integer, number, text, list, map. -/
namespace Shortlist.Value

def nullOf? : Datum → Option Value
  | .null => some .null
  | _ => none

def boolOf? : Datum → Option Value
  | .bool b => some (.bool b)
  | _ => none

def intOf? : Datum → Option Value
  | .int n => if Number.inInt64 n then some (.int (Int64.ofInt n)) else none
  | _ => none

def floatOf? : Datum → Option Value
  | .float x => some (.float x)
  | .int n => some (.float (Float.ofInt n))
  | _ => none

def stringOf? : Datum → Option Value
  | .scalar _ _ s => some (.string s)
  | _ => none

def scalarOf? (d : Datum) : Option Value :=
  [nullOf?, boolOf?, intOf?, floatOf?, stringOf?].findSome? (· d)

/-- A collection under a local tag belongs to somebody else. -/
def refusesTag : Option String → Bool
  | some tag => Datum.isLocalTag tag
  | none => false

/-- A key has to be text once its meaning is known. -/
def keyOf? (d : Datum) : Option String := d.resolve.string?

mutual
def ofDatum? (d : Datum) : Option Value :=
  match scalarOf? d.resolve with
  | some v => some v
  | none =>
    match d with
    | .row items => (ofItems? items).map .list
    | .seq tag items => if refusesTag tag then none else (ofItems? items).map .list
    | .map tag entries => if refusesTag tag then none else (ofPairs? entries).map ofEntries
    | _ => none

def ofItems? : List Datum → Option (List Value)
  | [] => some []
  | d :: ds => do
    let v ← ofDatum? d
    let vs ← ofItems? ds
    return v :: vs

def ofPairs? : List (Datum × Datum) → Option (List (String × Value))
  | [] => some []
  | (k, d) :: es => do
    let key ← keyOf? k
    let v ← ofDatum? d
    let rest ← ofPairs? es
    return (key, v) :: rest
end

end Shortlist.Value
