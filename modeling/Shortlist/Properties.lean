import Std.Data.ExtTreeMap
import Shortlist.Value.Coercion
/-! Property maps, shared by users, items and cache namespaces. Two maps with the same value
under every key are equal. -/
namespace Shortlist

abbrev Properties := Std.ExtTreeMap String Value

namespace Properties

/-- The last of several entries with one key wins. -/
def ofEntries (entries : List (String × Value)) : Properties :=
  entries.foldl (fun p e => p.insert e.1 e.2) ∅

def overlay (earlier later : Properties) : Properties := earlier ∪ later

def insertAbsent (p : Properties) (key : String) (v : Value) : Properties := p.insertIfNew key v

def present? (p : Properties) (key : String) : Option Value :=
  match p[key]? with
  | some v => if v.isNull then none else some v
  | none => none

theorem getElem?_overlay (earlier later : Properties) (key : String) :
    (overlay earlier later)[key]? = later[key]?.or earlier[key]? :=
  Std.ExtTreeMap.getElem?_union

theorem present?_insert (p : Properties) (key other : String) (v : Value) :
    present? (p.insert key v) other =
      if key = other then (if v.isNull then none else some v) else p.present? other := by
  simp only [present?, Std.ExtTreeMap.getElem?_insert, Std.LawfulEqCmp.compare_eq_iff_eq]
  by_cases h : key = other
  · simp only [if_pos h]
  · simp only [if_neg h]

end Properties

/-- Why a typed lookup failed. A missing property is told apart from one of the wrong shape. -/
inductive PropertyError where
  | notFound (key : String)
  | coercion (key : String) (source : CoercionError)
deriving DecidableEq, Repr

def PropertyError.message : PropertyError → String
  | .notFound key => "property not found: " ++ key
  | .coercion key source => "property '" ++ key ++ "': " ++ source.message

def Properties.typed {α : Type} (p : Properties) (key : String)
    (coerce : Value → Except CoercionError α) : Except PropertyError α :=
  match p[key]? with
  | none => .error (.notFound key)
  | some v => (coerce v).mapError (.coercion key)

namespace Value

/-- A map value in its one form: key order, each key once. -/
def ofProperties (p : Properties) : Value := .map p.toList

def ofEntries (entries : List (String × Value)) : Value := ofProperties (.ofEntries entries)

end Value
end Shortlist
