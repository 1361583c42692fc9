import Shortlist.Document.Basic
import Shortlist.Proofs.Plan.Compilation
/-! Values in descriptors. A null that is written out means the same to the compiler as no value at
all, so it may be dropped wherever it stands. -/
namespace Shortlist

namespace Descriptor

/-- Whatever value is written in the descriptor or below it has the property. -/
inductive Every (P : Value → Prop) : Descriptor → Prop
  | intro {d : Descriptor} : (∀ v, d.value = some v → P v) → (∀ child ∈ d.children, Every P child) →
      Every P d

mutual
/-- The descriptor with no value in the place of each null, at any depth. -/
def dropNulls : Descriptor → Descriptor
  | ⟨name, domain, operator, type, value, children⟩ =>
    ⟨name, domain, operator, type, value.filter (!·.isNull), dropNullsAll children⟩

def dropNullsAll : List Descriptor → List Descriptor
  | [] => []
  | d :: ds => dropNulls d :: dropNullsAll ds
end

variable {P Q : Value → Prop} {d : Descriptor}

theorem dropNullsAll_eq (ds : List Descriptor) : dropNullsAll ds = ds.map dropNulls :=
  eq_map_of_cons rfl (fun _ _ => rfl) ds

theorem dropNulls_value (d : Descriptor) : d.dropNulls.value = d.value.filter (!·.isNull) := by
  cases d
  rfl

theorem dropNulls_children (d : Descriptor) :
    d.dropNulls.children = d.children.map dropNulls := by
  obtain ⟨name, domain, operator, type, value, children⟩ := d
  exact dropNullsAll_eq children

theorem Every.imp (h : d.Every P) (hpq : ∀ v, P v → Q v) : d.Every Q := by
  induction h with
  | intro hvalue _ ih => exact .intro (fun v hv => hpq v (hvalue v hv)) ih

/-- What is left has no nulls, and is what was there before. -/
theorem Every.dropNulls (h : d.Every P) : d.dropNulls.Every fun v => P v ∧ v ≠ .null := by
  induction h with
  | @intro d hvalue _ ih =>
      refine .intro (fun v hv => ?_) (fun child hchild => ?_)
      · rw [dropNulls_value, Option.filter_eq_some_iff] at hv
        refine ⟨hvalue v hv.1, ?_⟩
        rintro rfl
        cases hv.2
      · rw [dropNulls_children] at hchild
        obtain ⟨old, hold, rfl⟩ := List.mem_map.mp hchild
        exact ih old hold

theorem Every.dropNulls_eq (h : d.Every (· ≠ .null)) : d.dropNulls = d := by
  induction h with
  | @intro d hvalue _ ih =>
      obtain ⟨name, domain, operator, type, value, children⟩ := d
      have same : children.map Descriptor.dropNulls = children :=
        (List.map_congr_left ih).trans (List.map_id _)
      rw [Descriptor.dropNulls, dropNullsAll_eq, same]
      congr 1
      cases value with
      | none => rfl
      | some v =>
          cases v with
          | null => exact absurd rfl (hvalue .null rfl)
          | bool | int | float | string | list | map => rfl

/-! ### Compiling -/

theorem requiredValue_dropNulls (d : Descriptor) (name : String) :
    d.dropNulls.requiredValue name = d.requiredValue name := by
  unfold requiredValue
  rw [dropNulls_value]
  cases d.value with
  | none => rfl
  | some v => cases v <;> rfl

theorem compileLeaf_dropNulls (d : Descriptor) (c : Comparison) (domain : EntityKind) :
    d.dropNulls.compileLeaf c domain = d.compileLeaf c domain := by
  have hvalue := d.requiredValue_dropNulls
  obtain ⟨name, dom, operator, type, value, children⟩ := d
  simp only [compileLeaf, hvalue]
  rfl

theorem compileAll_dropNulls {ds : List Descriptor}
    (ih : ∀ d ∈ ds, ∀ inherited, d.dropNulls.compile inherited = d.compile inherited)
    (inherited : EntityKind) :
    compileAll inherited (dropNullsAll ds) = compileAll inherited ds := by
  have dropped : List.Forall₂ (fun d d' => d' = d.dropNulls) ds (dropNullsAll ds) := by
    rw [dropNullsAll_eq, List.forall₂_map_right_iff]
    exact List.forall₂_same.mpr fun _ _ => rfl
  refine compileAll_congr dropped (fun d hd d' hd' => ?_) inherited
  rw [hd']
  exact ih d hd

/-- Where a value is asked for, a null is as good as none. -/
theorem compile_dropNulls (d : Descriptor) :
    ∀ inherited, d.dropNulls.compile inherited = d.compile inherited := by
  induction d using induction_children with
  | step d ih =>
      intro inherited
      have hleaf := d.compileLeaf_dropNulls
      have hall := compileAll_dropNulls ih
      obtain ⟨name, domain, operator, type, value, children⟩ := d
      have hempty : (dropNullsAll children).isEmpty = children.isEmpty := by
        rw [dropNullsAll_eq, List.isEmpty_map]
      rw [dropNulls] at hleaf
      simp only [dropNulls, compile, hleaf, hall, hempty]
      rfl

end Descriptor

/-! ### Documents -/

namespace Document

def Every (P : Value → Prop) (doc : Document) : Prop := ∀ d ∈ doc.filters, d.Every P

def dropNulls (doc : Document) : Document :=
  { doc with filters := Descriptor.dropNullsAll doc.filters }

variable {P Q : Value → Prop} {doc : Document}

theorem Every.imp (h : doc.Every P) (hpq : ∀ v, P v → Q v) : doc.Every Q :=
  fun d hd => (h d hd).imp hpq

theorem Every.dropNulls (h : doc.Every P) : doc.dropNulls.Every fun v => P v ∧ v ≠ .null := by
  intro d hd
  rw [Document.dropNulls, Descriptor.dropNullsAll_eq] at hd
  obtain ⟨old, hold, rfl⟩ := List.mem_map.mp hd
  exact (h old hold).dropNulls

theorem Every.dropNulls_eq (h : doc.Every (· ≠ .null)) : doc.dropNulls = doc := by
  have same : Descriptor.dropNullsAll doc.filters = doc.filters := by
    rw [Descriptor.dropNullsAll_eq]
    exact (List.map_congr_left fun d hd => (h d hd).dropNulls_eq).trans (List.map_id _)
  rw [Document.dropNulls, same]

theorem compile_dropNulls (doc : Document) :
    Plan.compile doc.dropNulls.filters = Plan.compile doc.filters := by
  have hall : Descriptor.compileAll .item (Descriptor.dropNullsAll doc.filters) =
      Descriptor.compileAll .item doc.filters :=
    Descriptor.compileAll_dropNulls (fun d _ => d.compile_dropNulls) .item
  rw [Plan.compile, dropNulls, hall, ← Plan.compile]

end Document
end Shortlist
