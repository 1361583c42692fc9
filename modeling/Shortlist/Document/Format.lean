import Shortlist.Document.Basic
import Shortlist.Json.Reader
import Shortlist.Yaml.Reader
import Shortlist.Yaml.Writer
/-! Documents as text, in either of two formats. -/
namespace Shortlist

inductive Format where
  | json | yaml
deriving DecidableEq, Repr

def Format.read? (f : Format) (text : String) : Option Datum :=
  match f with
  | .json => Json.read? text
  | .yaml => Yaml.read? text

namespace Document

def parse? (f : Format) (text : String) : Option Document := (f.read? text).bind ofDatum?

def toYaml (d : Document) : String := Yaml.write d.toDatum

/-- Whether the document comes back from its own text. One that holds a number that equals
nothing does not. -/
def roundTrips (d : Document) : Bool := parse? .yaml d.toYaml == some d

end Document
end Shortlist
