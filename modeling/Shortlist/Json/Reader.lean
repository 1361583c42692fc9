import Shortlist.Json.Number
/-! Strict JSON text. Nothing is converted here: a number out of range, half a surrogate pair and
too deep nesting only matter to those who look at them. -/
namespace Shortlist.Json

def isBlank (c : Char) : Bool := c = ' ' || c = '\n' || c = '\t' || c = '\r'

def skipBlanks (cs : List Char) : List Char := cs.dropWhile isBlank

def hexValue? (c : Char) : Option Nat :=
  let n := c.toNat
  if 48 ≤ n && n ≤ 57 then some (n - 48)
  else if 97 ≤ n && n ≤ 102 then some (n - 87)
  else if 65 ≤ n && n ≤ 70 then some (n - 55)
  else none

def readUnit? : List Char → Option (Nat × List Char)
  | a :: b :: c :: d :: cs => do
    let n := (((← hexValue? a) * 16 + (← hexValue? b)) * 16 + (← hexValue? c)) * 16
    return (n + (← hexValue? d), cs)
  | _ => none

def escaped? : Char → Option Char
  | '"' => some '"'
  | '\\' => some '\\'
  | '/' => some '/'
  | 'b' => some '\x08'
  | 'f' => some '\x0c'
  | 'n' => some '\n'
  | 'r' => some '\r'
  | 't' => some '\t'
  | _ => none

def readUnits? : Nat → List Char → Option (List (Nat ⊕ Char) × List Char)
  | 0, _ => none
  | _, [] => none
  | _, '"' :: cs => some ([], cs)
  | fuel + 1, '\\' :: 'u' :: cs => do
    let (unit, cs) ← readUnit? cs
    let (rest, cs) ← readUnits? fuel cs
    return (.inl unit :: rest, cs)
  | fuel + 1, '\\' :: c :: cs => do
    let c ← escaped? c
    let (rest, cs) ← readUnits? fuel cs
    return (.inr c :: rest, cs)
  | _, ['\\'] => none
  | fuel + 1, c :: cs =>
    if c.toNat < 0x20 then none
    else do
      let (rest, cs) ← readUnits? fuel cs
      return (.inr c :: rest, cs)

/-- Joins surrogate pairs; a half without its partner has no character. -/
def joinUnits? : List (Nat ⊕ Char) → Option (List Char)
  | [] => some []
  | .inr c :: us => (joinUnits? us).map (c :: ·)
  | .inl n :: us =>
    if n < 0xd800 || 0xdfff < n then (joinUnits? us).map (Char.ofNat n :: ·)
    else if n < 0xdc00 then
      match us with
      | .inl low :: us =>
        if 0xdc00 ≤ low && low ≤ 0xdfff then
          (joinUnits? us).map (Char.ofNat (0x10000 + (n - 0xd800) * 0x400 + (low - 0xdc00)) :: ·)
        else none
      | _ => none
    else none

def readString? (cs : List Char) : Option (Datum × List Char) := do
  let (units, rest) ← readUnits? (cs.length + 1) cs
  match joinUnits? units with
  | some text => return (.string (String.ofList text), rest)
  | none => return (.unreadable, rest)

def readWord? (word : String) (d : Datum) (cs : List Char) : Option (Datum × List Char) :=
  if word.toList.isPrefixOf cs then some (d, cs.drop word.length) else none

mutual
/-- One value and the text behind it. Every step consumes a character, so the length of the text
bounds the steps. -/
def readValue? : Nat → List Char → Option (Datum × List Char)
  | 0, _ => none
  | fuel + 1, cs =>
    match skipBlanks cs with
    | '"' :: cs => readString? cs
    | '[' :: cs =>
      match skipBlanks cs with
      | ']' :: cs => some (.row [], cs)
      | cs => (readItems? fuel cs).map fun r => (.row r.1, r.2)
    | '\x7b' :: cs =>
      match skipBlanks cs with
      | '\x7d' :: cs => some (.map none [], cs)
      | cs => (readEntries? fuel cs).map fun r => (.map none r.1, r.2)
    | 'n' :: cs => readWord? "null" .null ('n' :: cs)
    | 't' :: cs => readWord? "true" (.bool true) ('t' :: cs)
    | 'f' :: cs => readWord? "false" (.bool false) ('f' :: cs)
    | cs => readNumber? cs

def readItems? : Nat → List Char → Option (List Datum × List Char)
  | 0, _ => none
  | fuel + 1, cs => do
    let (d, cs) ← readValue? fuel cs
    match skipBlanks cs with
    | ',' :: cs =>
      let (ds, cs) ← readItems? fuel cs
      return (d :: ds, cs)
    | ']' :: cs => return ([d], cs)
    | _ => none

def readEntries? : Nat → List Char → Option (List (Datum × Datum) × List Char)
  | 0, _ => none
  | fuel + 1, cs => do
    let .cons '"' cs := skipBlanks cs | none
    let (k, cs) ← readString? cs
    let .cons ':' cs := skipBlanks cs | none
    let (d, cs) ← readValue? fuel cs
    match skipBlanks cs with
    | ',' :: cs =>
      let (es, cs) ← readEntries? fuel cs
      return ((k, d) :: es, cs)
    | '\x7d' :: cs => return ([(k, d)], cs)
    | _ => none
end

def maxDepth : Nat := 127

def read? (text : String) : Option Datum :=
  let cs := text.toList
  match readValue? (2 * cs.length + 2) cs with
  | some (d, rest) => if (skipBlanks rest).isEmpty then some (d.limit maxDepth) else none
  | none => none

end Shortlist.Json
