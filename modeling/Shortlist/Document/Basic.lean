import Shortlist.Datum.Value
import Shortlist.Rule.Descriptor
/-! Filter documents: a versioned header and an ordered list of rules, and their form as
configuration trees. -/
namespace Shortlist

structure Metadata where
  id : String
  name : String
  description : Option String := none
  tags : Option (List String) := none
  enabled : Bool := true
deriving DecidableEq, Repr

structure Document where
  apiVersion : String
  kind : String
  metadata : Metadata
  filters : List Descriptor := []
deriving BEq

def Document.filterKind : String := "FilterConfig"

/-! ### Reading -/

/-- The fields of a rule. Each has a capitalised and a lower-case spelling. -/
inductive DescriptorField where
  | name | domain | operator | type | value | configs
deriving DecidableEq, Repr

def DescriptorField.ofKey? : String → Option DescriptorField
  | "Name" | "name" => some .name
  | "Domain" | "domain" => some .domain
  | "Operator" | "operator" => some .operator
  | "Type" | "type" => some .type
  | "Value" | "value" => some .value
  | "Configs" | "configs" => some .configs
  | _ => none

/-- A rule while it is read: a field is given at most once. -/
structure Draft where
  name : Option String := none
  domain : Option (Option EntityKind) := none
  operator : Option String := none
  type : Option String := none
  value : Option (Option Value) := none
  configs : Option (List Descriptor) := none

namespace Draft

/-- Everything but the operator has a default. -/
def finish? (d : Draft) : Option Descriptor :=
  d.operator.map fun operator =>
    { name := d.name.getD ""
      domain := d.domain.getD none
      operator
      type := d.type.getD ""
      value := d.value.getD none
      children := d.configs.getD [] }

def once {α : Type} (old : Option α) (new : Option α) : Option (Option α) :=
  match old, new with
  | none, some a => some (some a)
  | _, _ => none

def domainOf? (d : Datum) : Option (Option EntityKind) :=
  Datum.optional? (fun d => d.choice?.bind EntityKind.parse?) d

def valueOf? (d : Datum) : Option (Option Value) := Datum.optional? Value.ofDatum? d

def setField? (d : Draft) (f : DescriptorField) (v : Datum) (configs : Option (List Descriptor)) :
    Option Draft :=
  match f with
  | .name => (once d.name v.string?).map fun name => { d with name }
  | .domain => (once d.domain (domainOf? v)).map fun domain => { d with domain }
  | .operator => (once d.operator v.string?).map fun operator => { d with operator }
  | .type => (once d.type v.string?).map fun type => { d with type }
  | .value => (once d.value (valueOf? v)).map fun value => { d with value }
  | .configs => (once d.configs configs).map fun configs => { d with configs }

end Draft

def DescriptorField.positions : List DescriptorField :=
  [.name, .domain, .operator, .type, .value, .configs]

namespace Descriptor

mutual
/-- A rule is a record, by name or by position. Names that are not fields are skipped. -/
def ofDatum? : Datum → Option Descriptor
  | .map _ entries => (ofEntries? {} entries).bind Draft.finish?
  | .row items => (ofFields? {} DescriptorField.positions items).bind Draft.finish?
  | _ => none

def ofEntries? (draft : Draft) : List (Datum × Datum) → Option Draft
  | [] => some draft
  | (k, v) :: es =>
    match k.string? with
    | none => none
    | some key =>
      match DescriptorField.ofKey? key with
      | none => ofEntries? draft es
      | some f => do
        let draft ← draft.setField? f v (listOf? v)
        ofEntries? draft es

def ofFields? (draft : Draft) (fields : List DescriptorField) : List Datum → Option Draft
  | [] => some draft
  | v :: vs =>
    match fields with
    | [] => none
    | f :: fs => do
      let draft ← draft.setField? f v (listOf? v)
      ofFields? draft fs vs

def listOf? : Datum → Option (List Descriptor)
  | .row items | .seq _ items => allOf? items
  | d => if d.isBlank then some [] else none

def allOf? : List Datum → Option (List Descriptor)
  | [] => some []
  | d :: ds => do
    let rule ← ofDatum? d
    let rules ← allOf? ds
    return rule :: rules
end

end Descriptor

/-- Names other than the fields are refused here. -/
def Metadata.ofDatum? (d : Datum) : Option Metadata := do
  let [some id, some name, description, tags, enabled] ←
    d.fields? true [["id"], ["name"], ["description"], ["tags"], ["enabled"]] | none
  return {
    id := ← id.string?
    name := ← name.string?
    description := ← Datum.orElse? description (Datum.optional? Datum.string?) none
    tags := ← Datum.orElse? tags (Datum.optional? Datum.strings?) none
    enabled := ← Datum.orElse? enabled Datum.bool? true }

def Document.ofDatum? (d : Datum) : Option Document := do
  let [some apiVersion, some kind, some metadata, filters] ←
    d.fields? false [["apiVersion"], ["kind"], ["metadata"], ["filters"]] | none
  return {
    apiVersion := ← apiVersion.string?
    kind := ← kind.string?
    metadata := ← Metadata.ofDatum? metadata
    filters := ← Datum.orElse? filters Descriptor.listOf? [] }

/-! ### Writing -/

namespace Value

mutual
def toDatum : Value → Datum
  | .null => .null
  | .bool b => .bool b
  | .int n => .int n.toInt
  | .float x => .float x
  | .string s => .string s
  | .list items => .seq none (toDatumItems items)
  | .map entries => .map none (toDatumEntries entries)

def toDatumItems : List Value → List Datum
  | [] => []
  | v :: vs => toDatum v :: toDatumItems vs

def toDatumEntries : List (String × Value) → List (Datum × Datum)
  | [] => []
  | (k, v) :: es => (.string k, toDatum v) :: toDatumEntries es
end

end Value

namespace Descriptor

mutual
/-- Fields that hold nothing are left out, except for the name and the type. -/
def toDatum : Descriptor → Datum
  | ⟨name, domain, operator, type, value, children⟩ =>
    .record (
      [("Name", .string name)] ++
      (match domain with
        | some kind => [("Domain", .string kind.name)]
        | none => []) ++
      [("Operator", .string operator), ("Type", .string type)] ++
      (match value with
        | some v => [("Value", v.toDatum)]
        | none => []) ++
      (match children with
        | [] => []
        | d :: ds => [("Configs", .seq none (toDatum d :: toDatumAll ds))]))

def toDatumAll : List Descriptor → List Datum
  | [] => []
  | d :: ds => toDatum d :: toDatumAll ds
end

end Descriptor

def Datum.optional {α : Type} (write : α → Datum) : Option α → Datum
  | some a => write a
  | none => .null

def Metadata.toDatum (m : Metadata) : Datum :=
  .record [("id", .string m.id), ("name", .string m.name),
    ("description", .optional .string m.description),
    ("tags", .optional (fun tags => .seq none (tags.map .string)) m.tags),
    ("enabled", .bool m.enabled)]

def Document.toDatum (d : Document) : Datum :=
  .record [("apiVersion", .string d.apiVersion), ("kind", .string d.kind),
    ("metadata", d.metadata.toDatum), ("filters", .seq none (Descriptor.toDatumAll d.filters))]

end Shortlist
