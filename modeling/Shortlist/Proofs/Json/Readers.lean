import Mathlib.Tactic.SplitIfs
import Shortlist.Datum.Value
import Shortlist.Json.Reader
import Shortlist.Proofs.Json.Tree
/-! Two ways from JSON to a value: shape by shape, or over the generic tree. -/
namespace Shortlist

variable {text : String} {cs rest : List Char} {d : Datum}

namespace Datum

/-- A datum without tags and bare words, which means the same to everyone. -/
inductive Definite : Datum → Prop
  | null : Definite .null
  | bool (b : Bool) : Definite (.bool b)
  | int (n : Int) : Definite (.int n)
  | float (x : Float) : Definite (.float x)
  | string (s : String) : Definite (.string s)
  | row {items : List Datum} : (∀ d ∈ items, Definite d) → Definite (.row items)
  | map {entries : List (Datum × Datum)} :
      (∀ e ∈ entries, Definite e.1) → (∀ e ∈ entries, Definite e.2) →
        Definite (.map none entries)
  | unreadable : Definite .unreadable

theorem Definite.row_cons {ds : List Datum} (hd : d.Definite) (hds : (Datum.row ds).Definite) :
    (Datum.row (d :: ds)).Definite := by
  cases hds with
  | row hds => exact .row (List.forall_mem_cons.mpr ⟨hd, hds⟩)

theorem Definite.map_cons {k : Datum} {es : List (Datum × Datum)} (hk : k.Definite)
    (hd : d.Definite) (hes : (Datum.map none es).Definite) :
    (Datum.map none ((k, d) :: es)).Definite := by
  cases hes with
  | map hkeys hdata =>
      exact .map (List.forall_mem_cons.mpr ⟨hk, hkeys⟩) (List.forall_mem_cons.mpr ⟨hd, hdata⟩)

theorem definite_row_nil : (Datum.row []).Definite := .row (List.forall_mem_nil _)

theorem definite_map_nil : (Datum.map none []).Definite :=
  .map (List.forall_mem_nil _) (List.forall_mem_nil _)

theorem limitItems_eq (depth : Nat) (ds : List Datum) :
    limitItems depth ds = ds.map (limit depth) :=
  eq_map_of_cons rfl (fun _ _ => rfl) ds

theorem limitEntries_eq (depth : Nat) (es : List (Datum × Datum)) :
    limitEntries depth es = es.map fun e => (limit depth e.1, limit depth e.2) :=
  eq_map_of_cons rfl (fun _ _ => rfl) es

theorem Definite.limit (h : d.Definite) (depth : Nat) : (d.limit depth).Definite := by
  induction h generalizing depth with
  | null => exact .null
  | bool b => exact .bool b
  | int n => exact .int n
  | float x => exact .float x
  | string s => exact .string s
  | row _ ih =>
      cases depth with
      | zero => exact .unreadable
      | succ depth =>
          rw [Datum.limit, limitItems_eq]
          exact .row (List.forall_mem_map.mpr fun d hd => ih d hd depth)
  | map _ _ ihkeys ihdata =>
      cases depth with
      | zero => exact .unreadable
      | succ depth =>
          rw [Datum.limit, limitEntries_eq]
          exact .map (List.forall_mem_map.mpr fun e he => ihkeys e he depth)
            (List.forall_mem_map.mpr fun e he => ihdata e he depth)
  | unreadable => exact .unreadable

end Datum

/-! ### What strict text is read as -/

namespace Json
open Datum

theorem definite_scaled (negative : Bool) (word : Nat) (e : Int) :
    (scaled negative word e).Definite := by
  unfold scaled
  split
  · exact .float _
  · exact .unreadable

theorem definite_whole (negative : Bool) (word : Nat) : (whole negative word).Definite := by
  unfold whole
  split_ifs
  · exact .int _
  · exact .int _
  · exact .float _

theorem definite_withExponent (negative : Bool) (word : Nat) (e : Int) (down : Bool) (size : Nat) :
    (withExponent negative word e down size).Definite := by
  unfold withExponent
  split_ifs
  · exact definite_scaled ..
  · exact definite_scaled ..
  · exact .unreadable
  · exact .float _

theorem definite_finish {negative : Bool} {word : Nat} {e : Int}
    (h : finish negative word e cs = some (d, rest)) : d.Definite := by
  cases cs with
  | nil =>
      cases h
      exact definite_scaled ..
  | cons c cs =>
      simp only [finish] at h
      split_ifs at h
      · cases h
        exact definite_withExponent ..
      · cases h
        exact definite_scaled ..

theorem definite_afterWhole {negative : Bool} {word dropped : Nat}
    (h : afterWhole negative word dropped cs = some (d, rest)) : d.Definite := by
  unfold afterWhole at h
  dsimp only at h
  split at h
  · split_ifs at h
    exact definite_finish h
  · split_ifs at h
    · cases h
      exact definite_whole ..
    · exact definite_finish h

theorem definite_readUnsigned? {negative : Bool}
    (h : readUnsigned? negative cs = some (d, rest)) : d.Definite := by
  unfold readUnsigned? at h
  dsimp only at h
  split_ifs at h
  exact definite_afterWhole h

theorem definite_readNumber? (h : readNumber? cs = some (d, rest)) : d.Definite := by
  unfold readNumber? at h
  split at h <;> exact definite_readUnsigned? h

theorem definite_readString? (h : readString? cs = some (d, rest)) : d.Definite := by
  simp only [readString?, Option.bind_eq_bind, Option.bind_eq_some_iff] at h
  obtain ⟨_, _, hread⟩ := h
  split at hread
  · cases hread
    exact .string _
  · cases hread
    exact .unreadable

theorem definite_readWord? {word : String} {e : Datum} (he : e.Definite)
    (h : readWord? word e cs = some (d, rest)) : d.Definite := by
  unfold readWord? at h
  split_ifs at h
  cases h
  exact he

/-- By induction on the steps left: each step reads a value, the rest of a list or the rest of a
record. -/
theorem definite_read (fuel : Nat) :
    (∀ {cs d rest}, readValue? fuel cs = some (d, rest) → d.Definite) ∧
      (∀ {cs ds rest}, readItems? fuel cs = some (ds, rest) → (Datum.row ds).Definite) ∧
      (∀ {cs es rest}, readEntries? fuel cs = some (es, rest) → (Datum.map none es).Definite) := by
  induction fuel with
  | zero => simp [readValue?, readItems?, readEntries?]
  | succ fuel ih =>
      obtain ⟨hvalue, hitems, hentries⟩ := ih
      refine ⟨fun {cs d rest} h => ?_, fun {cs ds rest} h => ?_, fun {cs es rest} h => ?_⟩
      · unfold readValue? at h
        split at h
        · exact definite_readString? h
        · split at h
          · cases h
            exact definite_row_nil
          · obtain ⟨r, hr, heq⟩ := Option.map_eq_some_iff.mp h
            cases heq
            exact hitems hr
        · split at h
          · cases h
            exact definite_map_nil
          · obtain ⟨r, hr, heq⟩ := Option.map_eq_some_iff.mp h
            cases heq
            exact hentries hr
        · exact definite_readWord? .null h
        · exact definite_readWord? (.bool true) h
        · exact definite_readWord? (.bool false) h
        · exact definite_readNumber? h
      · unfold readItems? at h
        simp only [Option.bind_eq_bind, Option.bind_eq_some_iff] at h
        obtain ⟨⟨first, behind⟩, hfirst, h⟩ := h
        dsimp only at h
        split at h
        · obtain ⟨⟨others, behind⟩, hothers, h⟩ := Option.bind_eq_some_iff.mp h
          cases h
          exact (hvalue hfirst).row_cons (hitems hothers)
        · cases h
          exact (hvalue hfirst).row_cons definite_row_nil
        · cases h
      · unfold readEntries? at h
        split at h
        · simp only [Option.bind_eq_bind, Option.bind_eq_some_iff] at h
          obtain ⟨⟨k, behind⟩, hkey, h⟩ := h
          dsimp only at h
          split at h
          · simp only [Option.bind_eq_some_iff] at h
            obtain ⟨⟨first, behind⟩, hfirst, h⟩ := h
            have key := definite_readString? hkey
            dsimp only at h
            split at h
            · obtain ⟨⟨others, behind⟩, hothers, h⟩ := Option.bind_eq_some_iff.mp h
              cases h
              exact key.map_cons (hvalue hfirst) (hentries hothers)
            · cases h
              exact key.map_cons (hvalue hfirst) definite_map_nil
            · cases h
          · cases h
        · cases h

theorem definite_read? (h : read? text = some d) : d.Definite := by
  unfold read? at h
  dsimp only at h
  split at h
  · next hread =>
      split_ifs at h
      cases h
      exact ((definite_read _).1 hread).limit maxDepth
  · cases h

theorem toDatumItems_eq (js : List Json) : toDatumItems js = js.map toDatum :=
  eq_map_of_cons rfl (fun _ _ => rfl) js

theorem toDatumEntries_eq (es : List (String × Json)) :
    toDatumEntries es = es.map fun e => (.string e.1, toDatum e.2) :=
  eq_map_of_cons rfl (fun _ _ => rfl) es

theorem definite_toDatum (j : Json) : j.toDatum.Definite := by
  induction j using Json.induction_parts with
  | null => exact .null
  | bool b => exact .bool b
  | int n => exact .int n
  | float x => exact .float x
  | string s => exact .string s
  | array items ih =>
      rw [toDatum, toDatumItems_eq]
      exact .row (List.forall_mem_map.mpr ih)
  | object entries ih =>
      rw [toDatum, toDatumEntries_eq]
      exact .map (List.forall_mem_map.mpr fun e _ => .string e.1) (List.forall_mem_map.mpr ih)

end Json

/-! ### The value of a datum -/

namespace Value

/-- A whole number is an integer if it can be one; the next shape in turn takes any number. -/
theorem scalarOf?_int (n : Int) : scalarOf? (.int n) = some (ofInteger n) := by
  simp only [scalarOf?, List.findSome?_cons, nullOf?, boolOf?, intOf?, floatOf?, ofInteger]
  split_ifs <;> rfl

theorem ofDatum?_int (n : Int) : ofDatum? (.int n) = some (ofInteger n) := by
  simp only [ofDatum?, Datum.resolve, scalarOf?_int]

theorem keyOf?_eq {k : Datum} (h : k.Definite) : keyOf? k = k.string? := by
  cases h <;> rfl

theorem ofItems?_eq {ds : List Datum}
    (h : ∀ d ∈ ds, ofDatum? d = (Json.ofDatum? d).map ofJson) :
    ofItems? ds = (Json.ofDatumItems? ds).map ofJsonItems := by
  induction ds with
  | nil => rfl
  | cons d ds ih =>
      obtain ⟨hd, hds⟩ := List.forall_mem_cons.mp h
      rw [ofItems?, Json.ofDatumItems?, hd, ih hds]
      cases Json.ofDatum? d with
      | none => rfl
      | some j => cases Json.ofDatumItems? ds <;> rfl

theorem ofPairs?_eq {es : List (Datum × Datum)} (hkeys : ∀ e ∈ es, e.1.Definite)
    (h : ∀ e ∈ es, ofDatum? e.2 = (Json.ofDatum? e.2).map ofJson) :
    ofPairs? es = (Json.ofDatumEntries? es).map ofJsonEntries := by
  induction es with
  | nil => rfl
  | cons e es ih =>
      obtain ⟨hkey, hkeys⟩ := List.forall_mem_cons.mp hkeys
      obtain ⟨he, hes⟩ := List.forall_mem_cons.mp h
      rw [ofPairs?, Json.ofDatumEntries?, keyOf?_eq hkey, he, ih hkeys hes]
      cases e.1.string? with
      | none => rfl
      | some key => cases Json.ofDatum? e.2 with
          | none => rfl
          | some j => cases Json.ofDatumEntries? es <;> rfl

/-- A datum that means the same to everyone has one value, whether it is made at once or by way of
the tree, and has none in either way if part of it is unreadable. -/
theorem ofDatum?_eq (h : d.Definite) : ofDatum? d = (Json.ofDatum? d).map ofJson := by
  induction h with
  | null | bool | float | string | unreadable => rfl
  | int n => exact ofDatum?_int n
  | @row items _ ih =>
      have whole : ofDatum? (.row items) = (ofItems? items).map .list := by rfl
      rw [whole, ofItems?_eq ih, Json.ofDatum?, Option.map_map, Option.map_map]
      rfl
  | @map entries hkeys _ _ ih =>
      have whole : ofDatum? (.map none entries) = (ofPairs? entries).map ofEntries := by rfl
      rw [whole, ofPairs?_eq hkeys ih, Json.ofDatum?, Option.map_map, Option.map_map]
      refine congrArg (Option.map · _) (funext fun es => ?_)
      exact (ofEntries_ofJsonEntries_lastEntries es).symm

/-! ### The value of a tree -/

theorem ofItems?_toDatumItems {js : List Json}
    (h : ∀ j ∈ js, ofDatum? j.toDatum = some (ofJson j)) :
    ofItems? (Json.toDatumItems js) = some (ofJsonItems js) := by
  induction js with
  | nil => rfl
  | cons j js ih =>
      obtain ⟨hj, hjs⟩ := List.forall_mem_cons.mp h
      rw [Json.toDatumItems, ofItems?, hj, ih hjs]
      rfl

theorem ofPairs?_toDatumEntries {es : List (String × Json)}
    (h : ∀ e ∈ es, ofDatum? e.2.toDatum = some (ofJson e.2)) :
    ofPairs? (Json.toDatumEntries es) = some (ofJsonEntries es) := by
  induction es with
  | nil => rfl
  | cons e es ih =>
      obtain ⟨he, hes⟩ := List.forall_mem_cons.mp h
      rw [Json.toDatumEntries, ofPairs?, he, ih hes]
      rfl

theorem ofDatum?_toDatum (j : Json) : ofDatum? j.toDatum = some (ofJson j) := by
  induction j using Json.induction_parts with
  | null | bool | float | string => rfl
  | int n => exact ofDatum?_int n
  | array items ih =>
      have whole : ofDatum? (Json.toDatum (.array items)) =
        (ofItems? (Json.toDatumItems items)).map .list := by rfl
      rw [whole, ofItems?_toDatumItems ih]
      rfl
  | object entries ih =>
      have whole : ofDatum? (Json.toDatum (.object entries)) =
        (ofPairs? (Json.toDatumEntries entries)).map ofEntries := by rfl
      rw [whole, ofPairs?_toDatumEntries ih]
      rfl

/-- JSON has one value in the end: a tree read shape by shape gives what its translation gives, and
so does any text, which is refused by both readers or by neither. -/
theorem readers_agree :
    (∀ j : Json, ofDatum? j.toDatum = some (ofJson j)) ∧
      ∀ text : String, (Json.read? text).bind ofDatum? =
        ((Json.read? text).bind Json.ofDatum?).map ofJson := by
  refine ⟨ofDatum?_toDatum, fun text => ?_⟩
  cases h : Json.read? text with
  | none => rfl
  | some d => exact ofDatum?_eq (Json.definite_read? h)

end Value
end Shortlist
