/-! Configuration trees before anyone has asked them for a type. Both text formats are read into
these trees and documents are written through them. A bare word keeps its spelling, because what
it means depends on who asks. -/
namespace Shortlist

inductive ScalarStyle where
  | plain | singleQuoted | doubleQuoted | literal | folded
deriving DecidableEq, Repr

/-- A `row` is a list that may also stand for a record, field by field; a `seq` may not.
`unreadable` stands for well-formed text without a value here: a number out of range, half a
surrogate pair, nesting beyond the limit. It may be skipped but not read. -/
inductive Datum where
  | null
  | bool (b : Bool)
  | int (n : Int)
  | float (x : Float)
  | scalar (tag : Option String) (style : ScalarStyle) (text : String)
  | row (items : List Datum)
  | seq (tag : Option String) (items : List Datum)
  | map (tag : Option String) (entries : List (Datum × Datum))
  | unreadable
deriving Inhabited

namespace Datum

def string (s : String) : Datum := .scalar none .doubleQuoted s

def record (fields : List (String × Datum)) : Datum :=
  .map none (fields.map fun f => (string f.1, f.2))

/-- A value left out, as after `key:` with nothing behind it. -/
def isBlank : Datum → Bool
  | .scalar _ .plain text => text.isEmpty
  | _ => false

mutual
/-- Collections nested more than `depth` levels deep become unreadable. -/
def limit (depth : Nat) : Datum → Datum
  | .row items =>
    match depth with
    | 0 => .unreadable
    | d + 1 => .row (limitItems d items)
  | .seq tag items =>
    match depth with
    | 0 => .unreadable
    | d + 1 => .seq tag (limitItems d items)
  | .map tag entries =>
    match depth with
    | 0 => .unreadable
    | d + 1 => .map tag (limitEntries d entries)
  | d => d

def limitItems (depth : Nat) : List Datum → List Datum
  | [] => []
  | d :: ds => limit depth d :: limitItems depth ds

def limitEntries (depth : Nat) : List (Datum × Datum) → List (Datum × Datum)
  | [] => []
  | (k, v) :: es => (limit depth k, limit depth v) :: limitEntries depth es
end

end Datum
end Shortlist
