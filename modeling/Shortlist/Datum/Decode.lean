import Shortlist.Datum.Plain
/-! Typed readings of a datum. Each refuses what does not have the type asked for. -/
namespace Shortlist.Datum

/-- Any scalar of a bare-word format is text, whatever it looks like. -/
def string? : Datum → Option String
  | .scalar _ _ s => some s
  | _ => none

def bool? : Datum → Option Bool
  | .bool b => some b
  | .scalar _ .plain s => readBoolWord? s
  | .scalar (some tag) .literal s => if tag = standardTag "bool" then readBoolWord? s else none
  | _ => none

def word64? (d : Datum) : Option Nat :=
  match d.resolve with
  | .int n => if 0 ≤ n && n < Number.word64Size then some n.toNat else none
  | _ => none

def float? (d : Datum) : Option Float :=
  match d.resolve with
  | .float x => some x
  | .int n => some (Float.ofInt n)
  | _ => none

/-- Whether an optional field holds nothing. A bare word tagged as null has to be one. -/
def absent? : Datum → Option Bool
  | .null => some true
  | .unreadable => none
  | .scalar none .plain s => some (s.isEmpty || isNullWord s)
  | .scalar (some tag) .plain s =>
    if tag = standardTag "null" then if isNullWord s then some true else none else some false
  | _ => some false

def optional? {α : Type} (read : Datum → Option α) (d : Datum) : Option (Option α) :=
  match absent? d with
  | none => none
  | some true => some none
  | some false => (read d).map some

/-- A list field. Left blank it is the empty list. -/
def items? : Datum → Option (List Datum)
  | .row items | .seq _ items => some items
  | d => if d.isBlank then some [] else none

def strings? (d : Datum) : Option (List String) := (items? d).bind (·.mapM string?)

/-- A choice among names, written as the name, or as a record of one name with nothing in it, or
as a local tag on nothing. -/
def choice? : Datum → Option String
  | .scalar (some tag) style s =>
    if isLocalTag tag then
      if style = .plain && (s.isEmpty || isNullWord s) then some (tag.drop 1).toString else none
    else some s
  | .scalar none _ s => some s
  | .map none [(.scalar none .doubleQuoted key, .null)] => some key
  | _ => none

def namedEntries? : List (Datum × Datum) → Option (List (String × Datum))
  | [] => some []
  | (k, v) :: es => do
    let key ← k.string?
    let rest ← namedEntries? es
    return (key, v) :: rest

/-- What a record holds under any spelling of one field: nothing, or one datum. Twice is refused. -/
def lookup? (spellings : List String) (entries : List (String × Datum)) :
    Option (Option Datum) :=
  match entries.filter (spellings.contains ·.1) with
  | [] => some none
  | [e] => some (some e.2)
  | _ => none

/-- Pads with absent fields; more items than fields are refused. -/
def positional? (fields : Nat) (items : List Datum) : Option (List (Option Datum)) :=
  if items.length ≤ fields then
    some (items.map some ++ List.replicate (fields - items.length) none)
  else none

/-- The fields of a record, given by name or by position. A closed record refuses other names. -/
def fields? (closed : Bool) (names : List (List String)) : Datum → Option (List (Option Datum))
  | .map _ entries => do
    let entries ← namedEntries? entries
    if closed && entries.any (fun e => !names.any (·.contains e.1)) then none
    else names.mapM (lookup? · entries)
  | .row items => positional? names.length items
  | _ => none

def orElse? {α : Type} (field : Option Datum) (read : Datum → Option α) (default : α) : Option α :=
  match field with
  | some d => read d
  | none => some default

end Shortlist.Datum
