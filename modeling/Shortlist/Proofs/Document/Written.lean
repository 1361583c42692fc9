import Shortlist.Proofs.Document.Nulls
import Shortlist.Proofs.Json.Readers
import Shortlist.Proofs.Json.RoundTrip
/-! Documents as they are written. What is read of a written document is the document, with no value
in the place of an explicit null. -/
namespace Shortlist

/-! ### Values -/

namespace Value

theorem ofItems?_written {vs : List Value} (h : ∀ v ∈ vs, ofDatum? v.toDatum = some v) :
    ofItems? (toDatumItems vs) = some vs := by
  induction vs with
  | nil => rfl
  | cons v vs ih =>
      obtain ⟨hv, hvs⟩ := List.forall_mem_cons.mp h
      rw [toDatumItems, ofItems?, hv, ih hvs]
      rfl

theorem ofPairs?_written {es : List (String × Value)}
    (h : ∀ e ∈ es, ofDatum? e.2.toDatum = some e.2) : ofPairs? (toDatumEntries es) = some es := by
  induction es with
  | nil => rfl
  | cons e es ih =>
      obtain ⟨he, hes⟩ := List.forall_mem_cons.mp h
      rw [toDatumEntries, ofPairs?, he, ih hes]
      rfl

/-- The shape of a value is found again although nothing is written down about it. -/
theorem Ordered.ofDatum?_written {v : Value} (h : v.Ordered) : ofDatum? v.toDatum = some v := by
  induction h with
  | null | bool | float | string => rfl
  | int n => rw [toDatum, ofDatum?_int, ofInteger_toInt]
  | @list items _ ih =>
      have whole : ofDatum? (toDatum (.list items)) =
        (ofItems? (toDatumItems items)).map .list := by rfl
      rw [whole, ofItems?_written ih]
      rfl
  | @map entries keys _ ih =>
      have whole : ofDatum? (toDatum (.map entries)) =
        (ofPairs? (toDatumEntries entries)).map ofEntries := by rfl
      rw [whole, ofPairs?_written ih, Option.map_some, ofEntries_of_keyOrdered keys]

theorem absent?_written (v : Value) : Datum.absent? v.toDatum = some v.isNull := by
  cases v <;> rfl

end Value

namespace Draft

/-- Only a null is mistaken for a value that is left out. -/
theorem valueOf?_written {v : Value} (h : v.Ordered) :
    valueOf? v.toDatum = some (if v.isNull then none else some v) := by
  rw [valueOf?, Datum.optional?, v.absent?_written, h.ofDatum?_written]
  cases v.isNull <;> rfl

end Draft

/-! ### Descriptors -/

namespace Descriptor

/-- A field as it is written if it holds something, and left out if not. -/
def writtenField (key : String) (v : Option Datum) : List (Datum × Datum) :=
  v.toList.map fun d => (.string key, d)

theorem toDatum_eq (name : String) (domain : Option EntityKind) (operator type : String)
    (value : Option Value) (children : List Descriptor) :
    toDatum ⟨name, domain, operator, type, value, children⟩ =
      .map none ((.string "Name", .string name) ::
        (writtenField "Domain" (domain.map fun kind => .string kind.name) ++
          (.string "Operator", .string operator) :: (.string "Type", .string type) ::
            (writtenField "Value" (value.map Value.toDatum) ++
              writtenField "Configs" (match children with
                | [] => none
                | _ => some (.seq none (toDatumAll children)))))) := by
  cases domain <;> cases value <;> cases children <;> rfl

variable {f : DescriptorField} {draft next : Draft} {v : Datum} {es : List (Datum × Datum)}

theorem ofEntries?_field (key : String) (hkey : DescriptorField.ofKey? key = some f)
    (hset : draft.setField? f v (listOf? v) = some next) :
    ofEntries? draft ((.string key, v) :: es) = ofEntries? next es := by
  simp only [ofEntries?, Datum.string, Datum.string?, hkey, Option.bind_eq_bind, hset,
    Option.bind_some]

theorem ofEntries?_domain (domain : Option EntityKind) (h : draft.domain = none) :
    ofEntries? draft (writtenField "Domain" (domain.map fun kind => .string kind.name) ++ es) =
      ofEntries? { draft with domain := domain.map some } es := by
  cases domain with
  | none =>
      cases draft
      cases h
      rfl
  | some kind =>
      have read : Draft.domainOf? (.string kind.name) = some (some kind) := by cases kind <;> rfl
      have step : draft.setField? .domain (.string kind.name) (listOf? (.string kind.name)) =
          some { draft with domain := some (some kind) } := by
        simp only [Draft.setField?, h, read, Draft.once, Option.map_some]
      exact ofEntries?_field "Domain" rfl step

theorem ofEntries?_value (value : Option Value) (hvalue : ∀ v, value = some v → v.Ordered)
    (h : draft.value = none) :
    ofEntries? draft (writtenField "Value" (value.map Value.toDatum) ++ es) =
      ofEntries? { draft with value := value.map fun v => if v.isNull then none else some v } es := by
  cases value with
  | none =>
      cases draft
      cases h
      rfl
  | some v =>
      have step : draft.setField? .value v.toDatum (listOf? v.toDatum) =
          some { draft with value := some (if v.isNull then none else some v) } := by
        simp only [Draft.setField?, h, Draft.valueOf?_written (hvalue v rfl), Draft.once,
          Option.map_some]
      exact ofEntries?_field "Value" rfl step

theorem ofEntries?_configs (draft : Draft) (children : List Descriptor)
    (hall : allOf? (toDatumAll children) = some (dropNullsAll children)) (h : draft.configs = none) :
    ∃ configs, configs.getD [] = dropNullsAll children ∧
      ofEntries? draft (writtenField "Configs" (match children with
        | [] => none
        | _ => some (.seq none (toDatumAll children)))) =
      some { draft with configs := configs } := by
  cases children with
  | nil =>
      refine ⟨none, rfl, ?_⟩
      cases draft
      cases h
      rfl
  | cons child children =>
      refine ⟨some (dropNullsAll (child :: children)), rfl, ?_⟩
      have step : draft.setField? .configs (.seq none (toDatumAll (child :: children)))
          (listOf? (.seq none (toDatumAll (child :: children)))) =
          some { draft with configs := some (dropNullsAll (child :: children)) } := by
        simp only [Draft.setField?, listOf?, h, hall, Draft.once, Option.map_some]
      exact ofEntries?_field "Configs" rfl step

theorem allOf?_written {ds : List Descriptor}
    (h : ∀ d ∈ ds, ofDatum? d.toDatum = some d.dropNulls) :
    allOf? (toDatumAll ds) = some (dropNullsAll ds) := by
  induction ds with
  | nil => rfl
  | cons d ds ih =>
      obtain ⟨hd, hds⟩ := List.forall_mem_cons.mp h
      rw [toDatumAll, allOf?, hd, ih hds]
      rfl

/-- At every depth a descriptor comes back as it was written, but for its nulls. -/
theorem Every.ofDatum?_written {d : Descriptor} (h : d.Every Value.Ordered) :
    ofDatum? d.toDatum = some d.dropNulls := by
  induction h with
  | @intro d hvalue _ ih =>
      obtain ⟨name, domain, operator, type, value, children⟩ := d
      obtain ⟨configs, hconfigs, last⟩ := ofEntries?_configs
        { name := some name, domain := domain.map some, operator := some operator
          type := some type
          value := value.map fun v => if v.isNull then none else some v }
        children (allOf?_written ih) rfl
      have named : Draft.setField? {} .name (.string name) (listOf? (.string name)) =
          some { name := some name } := rfl
      have operated : Draft.setField? { name := some name, domain := domain.map some } .operator
          (.string operator) (listOf? (.string operator)) =
          some { name := some name, domain := domain.map some, operator := some operator } := rfl
      have typed : Draft.setField?
          { name := some name, domain := domain.map some, operator := some operator } .type
          (.string type) (listOf? (.string type)) =
          some { name := some name, domain := domain.map some, operator := some operator,
                 type := some type } := rfl
      -- The fields are read in the order in which they are written, each into an empty place.
      rw [toDatum_eq, ofDatum?, ofEntries?_field "Name" rfl named, ofEntries?_domain domain rfl,
        ofEntries?_field "Operator" rfl operated, ofEntries?_field "Type" rfl typed,
        ofEntries?_value value hvalue rfl, last, Option.bind_some]
      have hdomain : (domain.map some).getD none = domain := by cases domain <;> rfl
      have hnull : (value.map fun v => if v.isNull then none else some v).getD none =
          value.filter (!·.isNull) := by
        cases value with
        | none => rfl
        | some v => cases v <;> rfl
      simp only [Draft.finish?, Option.map_some, Option.getD_some, hconfigs, hdomain, hnull]
      rfl

end Descriptor

/-! ### Documents -/

theorem Datum.strings?_written (texts : List String) :
    Datum.strings? (.seq none (texts.map .string)) = some texts := by
  have each : (texts.map Datum.string).mapM Datum.string? = some texts := by
    induction texts with
    | nil => rfl
    | cons text texts ih =>
        rw [List.map_cons, List.mapM_cons, ih]
        rfl
  exact each

theorem Metadata.fields?_written (id name description tags enabled : Datum) :
    Datum.fields? true [["id"], ["name"], ["description"], ["tags"], ["enabled"]]
      (.record [("id", id), ("name", name), ("description", description), ("tags", tags),
        ("enabled", enabled)]) =
    some [some id, some name, some description, some tags, some enabled] := rfl

/-- A description or tags that are not there are written as null, which no text or list is. -/
theorem Metadata.ofDatum?_written (m : Metadata) : ofDatum? m.toDatum = some m := by
  obtain ⟨id, name, description, tags, enabled⟩ := m
  have hdescription : Datum.optional? Datum.string? (.optional .string description) =
      some description := by cases description <;> rfl
  have htags : Datum.optional? Datum.strings?
      (.optional (fun tags => .seq none (tags.map .string)) tags) = some tags := by
    cases tags with
    | none => rfl
    | some texts => exact congrArg (Option.map some) (Datum.strings?_written texts)
  simp only [ofDatum?, toDatum, fields?_written, Option.bind_eq_bind, Option.bind_some,
    Datum.orElse?, hdescription, htags]
  rfl

namespace Document

theorem fields?_written (apiVersion kind metadata filters : Datum) :
    Datum.fields? false [["apiVersion"], ["kind"], ["metadata"], ["filters"]]
      (.record [("apiVersion", apiVersion), ("kind", kind), ("metadata", metadata),
        ("filters", filters)]) =
    some [some apiVersion, some kind, some metadata, some filters] := rfl

theorem Every.ofDatum?_written {doc : Document} (h : doc.Every Value.Ordered) :
    ofDatum? doc.toDatum = some doc.dropNulls := by
  have hmetadata := doc.metadata.ofDatum?_written
  have hfilters := Descriptor.allOf?_written fun d hd => (h d hd).ofDatum?_written
  simp only [ofDatum?, toDatum, fields?_written, Option.bind_eq_bind, Option.bind_some,
    Datum.orElse?, Descriptor.listOf?, hmetadata, hfilters]
  rfl

end Document
end Shortlist
