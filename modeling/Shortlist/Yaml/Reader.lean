import Shortlist.Yaml.Anchor
import Shortlist.Yaml.Layout
/-! Configuration text with bare words, read as a datum. -/
namespace Shortlist.Yaml

/-- The datum of a text with one document at most. An empty text is a blank. -/
def read? (text : String) : Option Datum := do
  match ← document? (← tokens? text) with
  | some root => root.toDatum?
  | none => return .scalar none .plain ""

end Shortlist.Yaml
