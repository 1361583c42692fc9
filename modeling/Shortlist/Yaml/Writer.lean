import Shortlist.Yaml.ScalarText
/-! Layout of a written datum: mappings are indented by two columns, sequences stand under their
key without indentation, and what fits a line stays on it. -/
namespace Shortlist.Yaml

inductive Extent where
  | inline | lines | list
deriving DecidableEq, Repr

def extent : Datum → Extent
  | .map _ (_ :: _) => .lines
  | .row (_ :: _) | .seq _ (_ :: _) => .list
  | _ => .inline

def maxSimpleKey : Nat := 128

def isSimpleKey : Datum → Bool
  | .scalar _ _ s => s.utf8ByteSize ≤ maxSimpleKey && !s.toList.any isBreak
  | d => extent d = .inline

def closed (cs : List Char) : List Char :=
  if cs.getLast?.elim false isBreak then cs else cs ++ ['\n']

/-- A key before its colon, and the value below or beside it. A key that is too long or has
several lines gets a mark of its own. -/
def entryText (indent : Nat) (k v : Datum) (key value : List Char) : List Char :=
  if isSimpleKey k then
    let before := key.dropLast ++ [':']
    match extent v with
    | .inline => before ++ ' ' :: value
    | .lines => before ++ '\n' :: pad (indent + 2) ++ value
    | .list => before ++ '\n' :: pad indent ++ value
  else ['?', ' '] ++ key ++ pad indent ++ [':', ' '] ++ value

/-- The column of a value: sequences below a key stay in the column of the key. -/
def valueIndent (indent : Nat) (k v : Datum) : Nat :=
  if isSimpleKey k && extent v = .list then indent else indent + 2

mutual
def nodeText (indent : Nat) : Datum → List Char
  | .null | .unreadable => "null\n".toList
  | .bool b => if b then "true\n".toList else "false\n".toList
  | .int n => Number.intDigits n ++ ['\n']
  | .float x => floatText x ++ ['\n']
  | .scalar _ _ s => closed (stringText indent s)
  | .row items => if items.isEmpty then "[]\n".toList else (itemsText indent items).drop indent
  | .seq _ items => if items.isEmpty then "[]\n".toList else (itemsText indent items).drop indent
  | .map _ entries =>
    if entries.isEmpty then "\x7b\x7d\n".toList else (entriesText indent entries).drop indent

def itemsText (indent : Nat) : List Datum → List Char
  | [] => []
  | d :: ds => pad indent ++ ['-', ' '] ++ nodeText (indent + 2) d ++ itemsText indent ds

def entriesText (indent : Nat) : List (Datum × Datum) → List Char
  | [] => []
  | (k, v) :: es =>
    let key := nodeText (indent + 2) k
    let value := nodeText (valueIndent indent k v) v
    pad indent ++ entryText indent k v key value ++ entriesText indent es
end

def write (d : Datum) : String := String.ofList (nodeText 0 d)

end Shortlist.Yaml
