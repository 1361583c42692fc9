import Shortlist.Proofs.Document.Read
import Shortlist.Proofs.Document.Written
/-! Documents that are written and read again. Only a null in the place of a value is lost on the
way. The compiler does not see it, and no generic tree is read as a document that has one. -/
namespace Shortlist

/-- A document as it is read and made everywhere. -/
structure OrderedDocument where
  document : Document
  ordered : document.Every Value.Ordered

namespace Document
variable {doc : Document} {d : Datum}

/-- What is read of a document once it has been written. -/
def reencode? (doc : Document) : Option Document := ofDatum? doc.toDatum

theorem every_ordered_ofDatum? (h : ofDatum? d = some doc) : doc.Every Value.Ordered :=
  every_ofDatum? (fun part _ _ hv => Value.ordered_ofDatum? part (Draft.valueOf?_eq_some hv).2) h

theorem every_ne_null_ofDatum? (bare : d.NullsBare) (h : ofDatum? d = some doc) :
    doc.Every (· ≠ .null) := by
  refine every_ofDatum? (fun part hpart v hv => ?_) h
  rintro rfl
  have quoted := Draft.isQuotedNull_of_valueOf? hv
  rw [bare part hpart] at quoted
  cases quoted

end Document

namespace OrderedDocument

theorem reencode?_eq (doc : OrderedDocument) :
    doc.document.reencode? = some doc.document.dropNulls :=
  doc.ordered.ofDatum?_written

/-- The document that is read after the first writing. -/
def dropNulls (doc : OrderedDocument) : OrderedDocument where
  document := doc.document.dropNulls
  ordered := doc.ordered.dropNulls.imp fun _ hv => hv.1

theorem reencode?_dropNulls (doc : OrderedDocument) :
    doc.document.dropNulls.reencode? = some doc.document.dropNulls := by
  have without : doc.document.dropNulls.Every (· ≠ .null) :=
    doc.ordered.dropNulls.imp fun _ hv => hv.2
  exact doc.dropNulls.reencode?_eq.trans (congrArg some without.dropNulls_eq)

theorem reencode?_eq_self_iff (doc : OrderedDocument) :
    doc.document.reencode? = some doc.document ↔ doc.document.Every (· ≠ .null) := by
  rw [doc.reencode?_eq, Option.some.injEq]
  refine ⟨fun same => ?_, Document.Every.dropNulls_eq⟩
  rw [← same]
  exact doc.ordered.dropNulls.imp fun _ hv => hv.2

end OrderedDocument

namespace Document
variable {doc : Document} {d : Datum}

theorem reencode?_of_ofDatum? (bare : d.NullsBare) (h : ofDatum? d = some doc) :
    doc.reencode? = some doc :=
  (OrderedDocument.mk doc (every_ordered_ofDatum? h)).reencode?_eq_self_iff.mpr
    (every_ne_null_ofDatum? bare h)

/-- A document comes back from what is written of it, but for the nulls in the place of values. They
are lost the first time, the rest is never lost, and the rules compile to the same without them.
What is read from a generic tree has no such nulls and comes back whole; so does what is read from
text, unless the text has a quoted word in the place of a value and a tag that makes it a null. -/
theorem reencode_laws :
    (∀ doc : OrderedDocument, doc.document.reencode? = some doc.document.dropNulls ∧
      (doc.document.reencode? = some doc.document ↔ doc.document.Every (· ≠ .null))) ∧
    (∀ doc : OrderedDocument,
      doc.document.reencode?.bind reencode? = doc.document.reencode?) ∧
    (∀ (j : Json) (doc : Document), ofDatum? j.toDatum = some doc → doc.reencode? = some doc) ∧
    (∀ (d : Datum) (doc : Document), ofDatum? d = some doc →
      doc.Every Value.Ordered ∧ (d.NullsBare → doc.reencode? = some doc)) ∧
    ∀ (doc : OrderedDocument) (doc' : Document), doc.document.reencode? = some doc' →
      Plan.compile doc'.filters = Plan.compile doc.document.filters := by
  refine ⟨?nulls, ?again, ?tree, ?datum, ?compile⟩
  case nulls => exact fun doc => ⟨doc.reencode?_eq, doc.reencode?_eq_self_iff⟩
  case again =>
    intro doc
    rw [doc.reencode?_eq, Option.bind_some, doc.reencode?_dropNulls]
  case tree =>
    intro j doc h
    exact reencode?_of_ofDatum? j.definite_toDatum.nullsBare h
  case datum =>
    intro d doc h
    exact ⟨every_ordered_ofDatum? h, fun bare => reencode?_of_ofDatum? bare h⟩
  case compile =>
    intro doc doc' hread
    rw [doc.reencode?_eq] at hread
    cases hread
    exact doc.document.compile_dropNulls

/-- A null one rule below another. -/
example :
    let rules (value : Option Value) : Document :=
      { apiVersion := "v1", kind := filterKind, metadata := { id := "feed", name := "Feed" }
        filters := [.combine .item "and" [{ name := "tag", operator := "is_null", value }]] }
    (rules (some .null)).reencode? = some (rules none) := by rfl

end Document
end Shortlist
