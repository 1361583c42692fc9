import Shortlist.Number.Decimal
import Shortlist.Value.Basic
import Shortlist.Value.ValueType
/-! Best-effort conversion of a value to a requested type. Numbers widen, text is parsed, and
everything else is refused with its cause. -/
namespace Shortlist

inductive CoercionError where
  | unsupported (target found : Shape)
  | unparsable (target : Shape) (raw : String)
deriving DecidableEq, Repr

def CoercionError.message : CoercionError → String
  | .unsupported target found => "cannot convert " ++ found.name ++ " to " ++ target.name
  | .unparsable target raw => "cannot parse " ++ Text.quoted raw ++ " as " ++ target.name

namespace Value

def toText : Value → Except CoercionError String
  | .string s => .ok s
  | .int n => .ok (int64Text n)
  | .float x => .ok (Number.floatText x)
  | .bool b => .ok (boolText b)
  | v => .error (.unsupported .string v.shape)

/-- An integer as it is written, else a decimal without its fraction. -/
def readInt? (s : String) : Option Int64 :=
  let cs := Text.trimmed s.toList
  match Number.readInt64? cs with
  | some n => some n
  | none => (Number.readFloat? cs).map Number.truncate

def toInt : Value → Except CoercionError Int64
  | .int n => .ok n
  | .float x => .ok (Number.truncate x)
  | .string s =>
    match readInt? s with
    | some n => .ok n
    | none => .error (.unparsable .int s)
  | v => .error (.unsupported .int v.shape)

def toFloat : Value → Except CoercionError Float
  | .float x => .ok x
  | .int n => .ok (Float.ofInt n.toInt)
  | .string s =>
    match Number.readFloat? (Text.trimmed s.toList) with
    | some x => .ok x
    | none => .error (.unparsable .float s)
  | v => .error (.unsupported .float v.shape)

def readBool? (s : String) : Option Bool :=
  match Text.lowerAscii (Text.trim s) with
  | "true" | "1" => some true
  | "false" | "0" => some false
  | _ => none

def toBool : Value → Except CoercionError Bool
  | .bool b => .ok b
  | .int n => .ok (n != 0)
  | .string s =>
    match readBool? s with
    | some b => .ok b
    | none => .error (.unparsable .bool s)
  | v => .error (.unsupported .bool v.shape)

def commaParts (s : String) : List String :=
  (((Text.pieces ',' s.toList).map Text.trimmed).filter (!·.isEmpty)).map String.ofList

/-- Text is split at commas, and any other scalar is a list of itself. -/
def toList : Value → Except CoercionError (List Value)
  | .list items => .ok items
  | .string s => .ok ((commaParts s).map .string)
  | .int n => .ok [.int n]
  | .float x => .ok [.float x]
  | .bool b => .ok [.bool b]
  | v => .error (.unsupported .list v.shape)

/-- What a missing reference stands for. -/
def zeroOf : ValueType → Value
  | .string => .string ""
  | .int => .int 0
  | .float => .float 0
  | .bool => .bool false
  | .list _ => .list []

def coerceScalar (e : ScalarType) (v : Value) : Except CoercionError Value :=
  match e with
  | .string => v.toText.map .string
  | .int => v.toInt.map .int
  | .float => v.toFloat.map .float

def coerceAll (e : ScalarType) : List Value → Except CoercionError (List Value)
  | [] => .ok []
  | v :: vs => do
    let w ← v.coerceScalar e
    let ws ← coerceAll e vs
    return w :: ws

def coerce (v : Value) : ValueType → Except CoercionError Value
  | .string => v.toText.map .string
  | .int => v.toInt.map .int
  | .float => v.toFloat.map .float
  | .bool => v.toBool.map .bool
  | .list e => do
    let items ← v.toList
    let coerced ← coerceAll e items
    return .list coerced

end Value
end Shortlist
