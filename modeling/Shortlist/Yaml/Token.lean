import Shortlist.Datum.Basic
/-! Tokens of a configuration text. -/
namespace Shortlist.Yaml

/-- Layout has become explicit: block collections are opened and closed by tokens, and the first
token of a mapping key is preceded by `key`. A tag is a handle and the rest of its name. -/
inductive Token where
  | version (major minor : Nat)
  | tagHandle (handle stem : String)
  | documentStart | documentEnd
  | blockSeqStart | blockMapStart | blockEnd
  | flowSeqStart | flowSeqEnd | flowMapStart | flowMapEnd
  | blockEntry | flowEntry
  | key | value
  | alias (name : String)
  | anchor (name : String)
  | tag (handle rest : String)
  | scalar (style : ScalarStyle) (text : String)
deriving DecidableEq, Repr

end Shortlist.Yaml
