import Shortlist.Proofs.Document.Nulls
import Shortlist.Proofs.Json.Readers
import Shortlist.Proofs.Value.Ordered
/-! Documents as they are read. What holds of every value that a part of a tree is read as holds of
every value in the document the tree is read as. -/
namespace Shortlist

/-! ### Parts of a tree -/

namespace Datum

/-- The part is the tree, or stands below it as an item or behind a key. -/
inductive Within (part : Datum) : Datum → Prop
  | self : Within part part
  | row {d : Datum} {items : List Datum} : d ∈ items → Within part d → Within part (.row items)
  | seq {d : Datum} {items : List Datum} (tag : Option String) : d ∈ items → Within part d →
      Within part (.seq tag items)
  | map {e : Datum × Datum} {entries : List (Datum × Datum)} (tag : Option String) :
      e ∈ entries → Within part e.2 → Within part (.map tag entries)

theorem Definite.within {part d : Datum} (hpart : part.Within d) (h : d.Definite) :
    part.Definite := by
  induction hpart with
  | self => exact h
  | row hd _ ih =>
      cases h with
      | row hitems => exact ih (hitems _ hd)
  | seq => cases h
  | map _ he _ ih =>
      cases h with
      | map _ hdata => exact ih (hdata _ he)

/-- A word for null that is quoted, and null only by its tag. -/
def isQuotedNull : Datum → Bool
  | .scalar (some tag) style s => tag = standardTag "null" && style ≠ .plain && isNullWord s
  | _ => false

/-- Nowhere in the tree is a null quoted. -/
def NullsBare (d : Datum) : Prop := ∀ part : Datum, part.Within d → part.isQuotedNull = false

theorem Definite.nullsBare {d : Datum} (h : d.Definite) : d.NullsBare := by
  intro part hpart
  cases h.within hpart <;> rfl

theorem ofInteger?_ne_null {n : Int} {d : Datum} (h : ofInteger? n = some d) : d ≠ .null := by
  unfold ofInteger? at h
  split_ifs at h <;> cases h <;> exact Datum.noConfusion

theorem ofNumberWord_ne_null (s : String) : ofNumberWord s ≠ .null := by
  unfold ofNumberWord
  split
  · next d hd =>
      obtain ⟨n, -, hn⟩ := Option.bind_eq_some_iff.mp hd
      exact ofInteger?_ne_null hn
  · split
    · split_ifs <;> exact Datum.noConfusion
    · exact Datum.noConfusion

theorem ofPlain_eq_null {s : String} (h : ofPlain s = .null) :
    (s.isEmpty || isNullWord s) = true := by
  unfold ofPlain at h
  split_ifs at h with hnull
  · exact hnull
  · split at h
    · cases h
    · exact absurd h (ofNumberWord_ne_null s)

theorem ofTagged_eq_null {tag s : String} (h : ofTagged tag s = .null) :
    tag = standardTag "null" ∧ isNullWord s = true := by
  unfold ofTagged at h
  split_ifs at h with hlocal hbool hint hfloat hnull hword
  · split at h <;> cases h
  · split at h
    · next d hd =>
        obtain ⟨n, -, hn⟩ := Option.bind_eq_some_iff.mp hd
        exact absurd h (ofInteger?_ne_null hn)
    · cases h
  · split at h <;> cases h
  · exact ⟨hnull, hword⟩
  · cases h

end Datum

namespace Value

theorem scalarOf?_eq_null {d : Datum} (h : scalarOf? d = some .null) : d = .null := by
  cases d with
  | null => rfl
  | int n =>
      rw [scalarOf?_int, ofInteger] at h
      split_ifs at h <;> cases h
  | bool | float | scalar | row | seq | map | unreadable => cases h

theorem resolve_of_ofDatum?_null {d : Datum} (h : ofDatum? d = some .null) : d.resolve = .null := by
  unfold ofDatum? at h
  split at h
  · next v hscalar =>
      cases h
      exact scalarOf?_eq_null hscalar
  · split at h
    · obtain ⟨vs, -, hvs⟩ := Option.map_eq_some_iff.mp h
      cases hvs
    · split_ifs at h
      obtain ⟨vs, -, hvs⟩ := Option.map_eq_some_iff.mp h
      cases hvs
    · split_ifs at h
      obtain ⟨es, -, hes⟩ := Option.map_eq_some_iff.mp h
      unfold ofEntries at hes
      cases hes
    · cases h

end Value

/-! ### Drafts -/

namespace Draft

theorem valueOf?_eq_some {d : Datum} {v : Value} (h : valueOf? d = some (some v)) :
    Datum.absent? d = some false ∧ Value.ofDatum? d = some v := by
  unfold valueOf? Datum.optional? at h
  split at h
  · cases h
  · cases h
  · next present =>
      obtain ⟨v', hv', heq⟩ := Option.map_eq_some_iff.mp h
      cases heq
      exact ⟨present, hv'⟩

/-- A null that is not quoted is taken for a value that is left out. -/
theorem isQuotedNull_of_valueOf? {d : Datum} (h : valueOf? d = some (some .null)) :
    d.isQuotedNull = true := by
  obtain ⟨present, hd⟩ := valueOf?_eq_some h
  have hnull := Value.resolve_of_ofDatum?_null hd
  cases d with
  | null => cases present
  | scalar tag style s =>
      cases tag with
      | none =>
          cases style with
          | plain =>
              have left := Datum.ofPlain_eq_null hnull
              rw [Datum.absent?, left] at present
              cases present
          | singleQuoted | doubleQuoted | literal | folded => cases hnull
      | some tag =>
          obtain ⟨htag, hword⟩ := Datum.ofTagged_eq_null hnull
          -- An optional field asks for a null in plain style only, a value asks for it in any.
          cases style with
          | plain =>
              rw [Datum.absent?, if_pos htag, if_pos hword] at present
              cases present
          | singleQuoted | doubleQuoted | literal | folded =>
              simp only [Datum.isQuotedNull, htag, hword]
              rfl
  | seq tag items =>
      cases tag with
      | none => cases hnull
      | some tag =>
          simp only [Datum.resolve] at hnull
          split_ifs at hnull
  | map tag entries =>
      cases tag with
      | none => cases hnull
      | some tag =>
          simp only [Datum.resolve] at hnull
          split_ifs at hnull
  | bool | int | float | row | unreadable => cases hnull

variable {P : Value → Prop} {draft draft' : Draft}

theorem once_eq_some {α : Type} {old new : Option α} {result : Option α}
    (h : once old new = some result) : result = new := by
  unfold once at h
  split at h
  · exact (Option.some.inj h).symm
  · cases h

/-- What has been read so far has the property wherever a value stands. -/
structure Every (P : Value → Prop) (draft : Draft) : Prop where
  value : ∀ v, draft.value = some (some v) → P v
  configs : ∀ ds, draft.configs = some ds → ∀ d ∈ ds, d.Every P

theorem every_empty : Every P {} where
  value _ h := by cases h
  configs _ h := by cases h

theorem Every.setField? {f : DescriptorField} {v : Datum} {configs : Option (List Descriptor)}
    (h : draft.Every P) (hvalue : ∀ value, valueOf? v = some (some value) → P value)
    (hconfigs : ∀ ds, configs = some ds → ∀ d ∈ ds, d.Every P)
    (hset : draft.setField? f v configs = some draft') : draft'.Every P := by
  cases f with
  | name | domain | operator | type =>
      obtain ⟨_, -, rfl⟩ := Option.map_eq_some_iff.mp hset
      exact ⟨h.value, h.configs⟩
  | value =>
      obtain ⟨value, honce, rfl⟩ := Option.map_eq_some_iff.mp hset
      have hread := once_eq_some honce
      exact ⟨fun w hw => hvalue w (by rw [← hread]; exact hw), h.configs⟩
  | configs =>
      obtain ⟨read, honce, rfl⟩ := Option.map_eq_some_iff.mp hset
      have hread := once_eq_some honce
      exact ⟨h.value, fun ds hds => hconfigs ds (hread ▸ hds)⟩

theorem Every.finish? {d : Descriptor} (h : draft.Every P) (hfinish : draft.finish? = some d) :
    d.Every P := by
  obtain ⟨operator, -, rfl⟩ := Option.map_eq_some_iff.mp hfinish
  refine .intro (fun v hv => ?_) (fun child hchild => ?_)
  · cases hvalue : draft.value with
    | none =>
        rw [hvalue] at hv
        cases hv
    | some read =>
        rw [hvalue, Option.getD_some] at hv
        exact h.value v (hvalue.trans (congrArg some hv))
  · cases hconfigs : draft.configs with
    | none =>
        rw [hconfigs] at hchild
        cases hchild
    | some ds =>
        rw [hconfigs, Option.getD_some] at hchild
        exact h.configs ds hconfigs child hchild

end Draft

/-! ### Descriptors -/

/-- The property holds of every value that a part of the tree would be read as. -/
def Datum.EveryValue (P : Value → Prop) (d : Datum) : Prop :=
  ∀ part : Datum, part.Within d → ∀ v, Draft.valueOf? part = some (some v) → P v

namespace Descriptor

variable {P : Value → Prop}

mutual
/-- The value of a descriptor is read from a part of the tree, at any depth. -/
theorem every_ofDatum? {rule : Descriptor} : ∀ d : Datum, d.EveryValue P →
    ofDatum? d = some rule → rule.Every P
  | .map tag entries, h, hrule => by
    obtain ⟨draft, hdraft, hfinish⟩ := Option.bind_eq_some_iff.mp hrule
    have hentries : ∀ e ∈ entries, e.2.EveryValue P :=
      fun e he part hpart => h part (.map tag he hpart)
    exact (every_ofEntries? entries hentries Draft.every_empty hdraft).finish? hfinish
  | .row items, h, hrule => by
    obtain ⟨draft, hdraft, hfinish⟩ := Option.bind_eq_some_iff.mp hrule
    have hitems : ∀ d ∈ items, d.EveryValue P := fun d hd part hpart => h part (.row hd hpart)
    exact (every_ofFields? items hitems Draft.every_empty hdraft).finish? hfinish
  | .null, _, hrule | .bool _, _, hrule | .int _, _, hrule | .float _, _, hrule
  | .scalar _ _ _, _, hrule | .seq _ _, _, hrule | .unreadable, _, hrule => by cases hrule

theorem every_ofEntries? {draft draft' : Draft} : ∀ es : List (Datum × Datum),
    (∀ e ∈ es, e.2.EveryValue P) → draft.Every P → ofEntries? draft es = some draft' →
      draft'.Every P
  | [], _, hdraft, hread => by
    cases hread
    exact hdraft
  | (k, v) :: es, h, hdraft, hread => by
    obtain ⟨hv, hes⟩ := List.forall_mem_cons.mp h
    unfold ofEntries? at hread
    split at hread
    · cases hread
    · split at hread
      · exact every_ofEntries? es hes hdraft hread
      · obtain ⟨next, hset, hrest⟩ := Option.bind_eq_some_iff.mp hread
        -- Whatever the field is, its datum is read both as a value and as rules.
        have hnext := hdraft.setField? (hv v .self) (fun _ => every_listOf? v hv) hset
        exact every_ofEntries? es hes hnext hrest

theorem every_ofFields? {draft draft' : Draft} {fields : List DescriptorField} :
    ∀ ds : List Datum, (∀ d ∈ ds, d.EveryValue P) → draft.Every P →
      ofFields? draft fields ds = some draft' → draft'.Every P
  | [], _, hdraft, hread => by
    cases hread
    exact hdraft
  | v :: vs, h, hdraft, hread => by
    obtain ⟨hv, hvs⟩ := List.forall_mem_cons.mp h
    unfold ofFields? at hread
    split at hread
    · cases hread
    · obtain ⟨next, hset, hrest⟩ := Option.bind_eq_some_iff.mp hread
      have hnext := hdraft.setField? (hv v .self) (fun _ => every_listOf? v hv) hset
      exact every_ofFields? vs hvs hnext hrest

theorem every_listOf? {rules : List Descriptor} : ∀ d : Datum, d.EveryValue P →
    listOf? d = some rules → ∀ rule ∈ rules, rule.Every P
  | .row items, h, hread => every_allOf? items (fun d hd part hpart => h part (.row hd hpart)) hread
  | .seq tag items, h, hread =>
    every_allOf? items (fun d hd part hpart => h part (.seq tag hd hpart)) hread
  | .null, _, hread | .bool _, _, hread | .int _, _, hread | .float _, _, hread
  | .map _ _, _, hread | .unreadable, _, hread => by cases hread
  | .scalar tag style s, _, hread => by
    simp only [listOf?] at hread
    split_ifs at hread
    cases hread
    exact List.forall_mem_nil _

theorem every_allOf? {rules : List Descriptor} : ∀ ds : List Datum, (∀ d ∈ ds, d.EveryValue P) →
    allOf? ds = some rules → ∀ rule ∈ rules, rule.Every P
  | [], _, hread => by
    cases hread
    exact List.forall_mem_nil _
  | d :: ds, h, hread => by
    obtain ⟨hd, hds⟩ := List.forall_mem_cons.mp h
    simp only [allOf?, Option.bind_eq_bind, Option.bind_eq_some_iff] at hread
    obtain ⟨rule, hrule, rules, hrules, hread⟩ := hread
    cases hread
    exact List.forall_mem_cons.mpr ⟨every_ofDatum? d hd hrule, every_allOf? ds hds hrules⟩
end

end Descriptor

/-! ### Documents -/

namespace Datum

theorem mem_of_namedEntries? {entries : List (Datum × Datum)} {named : List (String × Datum)}
    (h : namedEntries? entries = some named) : ∀ e ∈ named, ∃ k, (k, e.2) ∈ entries := by
  induction entries generalizing named with
  | nil =>
      cases h
      exact List.forall_mem_nil _
  | cons entry entries ih =>
      simp only [namedEntries?, Option.bind_eq_bind, Option.bind_eq_some_iff] at h
      obtain ⟨key, -, rest, hrest, h⟩ := h
      cases h
      refine List.forall_mem_cons.mpr ⟨⟨entry.1, List.mem_cons_self⟩, fun e he => ?_⟩
      obtain ⟨k, hk⟩ := ih hrest e he
      exact ⟨k, List.mem_cons_of_mem entry hk⟩

theorem mem_of_lookup? {spellings : List String} {entries : List (String × Datum)} {part : Datum}
    (h : lookup? spellings entries = some (some part)) : ∃ key, (key, part) ∈ entries := by
  unfold lookup? at h
  split at h
  · cases h
  · next e he =>
      cases h
      have hmem : e ∈ entries.filter (spellings.contains ·.1) := he ▸ List.mem_singleton_self e
      exact ⟨e.1, List.mem_of_mem_filter hmem⟩
  · cases h

theorem mem_of_positional? {n : Nat} {items : List Datum} {fields : List (Option Datum)}
    {part : Datum} (h : positional? n items = some fields) (hpart : some part ∈ fields) :
    part ∈ items := by
  unfold positional? at h
  split_ifs at h
  cases h
  obtain hitem | hpad := List.mem_append.mp hpart
  · obtain ⟨d, hd, heq⟩ := List.mem_map.mp hitem
    cases heq
    exact hd
  · cases List.eq_of_mem_replicate hpad

/-- A field is a part of its record. -/
theorem within_of_fields? {closed : Bool} {names : List (List String)} {d part : Datum}
    {fields : List (Option Datum)} (h : d.fields? closed names = some fields)
    (hpart : some part ∈ fields) : part.Within d := by
  unfold fields? at h
  split at h
  · obtain ⟨named, hnamed, hfields⟩ := Option.bind_eq_some_iff.mp h
    split_ifs at hfields
    obtain ⟨spellings, -, hlookup⟩ := exists_mem_of_mapM hfields _ hpart
    obtain ⟨key, hkey⟩ := mem_of_lookup? hlookup
    obtain ⟨k, hk⟩ := mem_of_namedEntries? hnamed _ hkey
    exact .map _ hk .self
  · exact .row (mem_of_positional? h hpart) .self
  · cases h

theorem Within.trans {inner part d : Datum} (hinner : inner.Within part) (hpart : part.Within d) :
    inner.Within d := by
  induction hpart with
  | self => exact hinner
  | row hd _ ih => exact .row hd ih
  | seq tag hd _ ih => exact .seq tag hd ih
  | map tag he _ ih => exact .map tag he ih

end Datum

namespace Document

variable {P : Value → Prop}

/-- The value of a rule in a document is read from a part of the document's tree. -/
theorem every_ofDatum? {d : Datum} {doc : Document} (h : d.EveryValue P)
    (hread : ofDatum? d = some doc) : doc.Every P := by
  obtain ⟨fields, hfields, hread⟩ := Option.bind_eq_some_iff.mp hread
  split at hread
  · next apiVersion kind metadata filters =>
      simp only [Option.bind_eq_bind, Option.bind_eq_some_iff] at hread
      obtain ⟨version, -, word, -, header, -, rules, hrules, hread⟩ := hread
      cases hread
      cases filters with
      | none =>
          cases hrules
          exact List.forall_mem_nil _
      | some part =>
          have hpart : part.Within d := Datum.within_of_fields? hfields (by simp)
          exact Descriptor.every_listOf? part (fun inner hinner => h inner (hinner.trans hpart))
            hrules
  · cases hread

end Document
end Shortlist
