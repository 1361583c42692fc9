import Mathlib.Data.List.Permutation
import Shortlist.Proofs.Library.Visit
/-! The files of a folder as a scan sees them, and what one change does to them. Only what is in a
file counts when it is loaded, so a change of one file is without effect on all others. -/
namespace Shortlist

def shelfFolder : Path := .ofText "f"

/-- The least that a document can be. -/
def homeText : String := "[\"v1\",\"FilterConfig\",[\"home\",\"Home\"]]"

def homePlan (p : Path) : LoadedPlan :=
  { metadata := { id := "home", name := "Home" }, path := p, plan := {} }

namespace Files

variable {fs fs' : Files} {p q : Path}

/-! ### Contents -/

def file? (fs : Files) (p : Path) : Option ByteArray :=
  match fs[p]? with
  | some (.file bytes) => some bytes
  | _ => none

theorem file?_eq_some {bytes : ByteArray} :
    fs.file? p = some bytes ↔ fs[p]? = some (.file bytes) := by
  unfold file?
  split
  · next found h => simp [h]
  · next h =>
      constructor
      · intro hnone
        cases hnone
      · intro hsome
        exact absurd hsome (h bytes)

theorem file?_congr (h : fs[p]? = fs'[q]?) : fs.file? p = fs'.file? q := by
  unfold file?
  rw [h]

theorem holds_of_file? (h : (fs.file? p).isSome) : fs.holds p = true := by
  obtain ⟨bytes, hbytes⟩ := Option.isSome_iff_exists.mp h
  rw [holds, Std.ExtTreeMap.contains_eq_isSome_getElem?, file?_eq_some.mp hbytes]
  simp

theorem read?_eq (fs : Files) (p : Path) : fs.read? p = (fs.file? p).bind String.fromUTF8? := by
  unfold read? file?
  cases fs[p]? with
  | none => rfl
  | some e => cases e with
      | file bytes => rfl
      | folder => rfl

theorem compileFile_congr (h : fs.file? p = fs'.file? p) :
    fs.compileFile p = fs'.compileFile p := by
  have same : fs.read? p = fs'.read? p := by rw [read?_eq, read?_eq, h]
  simp only [compileFile, readDocument, same]

theorem file?_of_compileFile {l : LoadedPlan} (h : fs.compileFile p = .ok l) :
    (fs.file? p).isSome := by
  obtain ⟨-, d, hread, -⟩ := compileFile_eq_ok.mp h
  cases hfile : fs.file? p with
  | some bytes => rfl
  | none => simp [readDocument, read?_eq, hfile] at hread

/-- A file with the text of a document that compiles. -/
theorem compileFile_of_text {text : String} {f : Format} {d : Document} {plan : Plan}
    (hfile : fs.file? p = some text.toUTF8) (hformat : p.format? = some f)
    (hparse : Document.parse? f text = some d) (hkind : d.kind = Document.filterKind)
    (hid : (Text.trim d.metadata.id).isEmpty = false) (hplan : Plan.compile d.filters = .ok plan) :
    fs.compileFile p = .ok { metadata := d.metadata, path := p, plan } := by
  have hread : fs.read? p = some text := by
    rw [read?_eq, hfile]
    simp only [Option.bind_some, String.fromUTF8?, String.toUTF8, text.isValidUTF8, dif_pos]
    rfl
  have hdocument : fs.readDocument p = .ok d := by
    simp only [readDocument, hread, hformat, hparse]
    exact Document.validate_eq_ok.mpr ⟨hkind, hid, rfl⟩
  exact compileFile_eq_ok.mpr ⟨rfl, d, hdocument, rfl, hplan⟩

theorem compileFile_home (hfile : fs.file? p = some homeText.toUTF8)
    (hformat : p.format? = some .json) : fs.compileFile p = .ok (homePlan p) := by
  have hparse : Document.parse? .json homeText =
      some { apiVersion := "v1", kind := "FilterConfig", metadata := { id := "home", name := "Home" } } := by
    cbv
  exact compileFile_of_text hfile hformat hparse rfl (by decide) rfl

/-! ### Changes -/

theorem getElem?_foldl_insert_of_not_mem {es : List (Path × Entry)} (h : ∀ e, (q, e) ∉ es) :
    (es.foldl (fun fs e => fs.insert e.1 e.2) fs)[q]? = fs[q]? := by
  rw [getElem?_foldl_insert]
  cases hlast : es.reverse.lookup q with
  | none => rfl
  | some e => exact absurd (mem_of_lookup_reverse hlast) (h e)

theorem getElem?_foldl_insert_of_mem {es : List (Path × Entry)} {e : Entry} (h : (q, e) ∈ es)
    (unique : ∀ e', (q, e') ∈ es → e' = e) :
    (es.foldl (fun fs e => fs.insert e.1 e.2) fs)[q]? = some e := by
  rw [getElem?_foldl_insert]
  cases hlast : es.reverse.lookup q with
  | none =>
      have hne := List.lookup_eq_none_iff.mp hlast (q, e) (List.mem_reverse.mpr h)
      simp at hne
  | some e' => rw [unique e' (mem_of_lookup_reverse hlast), Option.some_or]

theorem ne_nil_of_mem_inits {d : Path} (h : q ∈ d.inits) : q ≠ [] := by
  obtain ⟨k, hk, rfl⟩ := List.mem_map.mp h
  cases d with
  | nil => simp at hk
  | cons name d => simp

theorem file?_makeFolder (fs : Files) (d q : Path) : (fs.makeFolder d).file? q = fs.file? q := by
  unfold makeFolder
  split
  · rfl
  · next hfree =>
      have made : d.inits.foldl (fun fs r => fs.insert r .folder) fs =
          (d.inits.map fun r => (r, Entry.folder)).foldl (fun fs e => fs.insert e.1 e.2) fs := by
        rw [List.foldl_map]
      rw [made]
      by_cases hq : q ∈ d.inits
      · have after : ((d.inits.map fun r => (r, Entry.folder)).foldl
            (fun fs e => fs.insert e.1 e.2) fs)[q]? = some .folder := by
          apply getElem?_foldl_insert_of_mem (List.mem_map.mpr ⟨q, hq, rfl⟩)
          intro e' he'
          obtain ⟨r, -, hr⟩ := List.mem_map.mp he'
          exact (Prod.mk.inj hr).2.symm
        -- A file at `q` would have been in the way.
        have before : fs.file? q = none := by
          rw [Option.eq_none_iff_forall_not_mem]
          intro bytes hbytes
          have hheld := holds_of_file? (Option.isSome_of_mem hbytes)
          have hfolder : fs.isFolder q = false := by
            simp [isFolder, file?_eq_some.mp hbytes, ne_nil_of_mem_inits hq]
          exact hfree (List.any_eq_true.mpr ⟨q, hq, by simp [hheld, hfolder]⟩)
        rw [before, file?, after]
      · apply file?_congr
        apply getElem?_foldl_insert_of_not_mem
        intro e he
        obtain ⟨r, hr, heq⟩ := List.mem_map.mp he
        exact hq ((Prod.mk.inj heq).1 ▸ hr)

theorem file?_write (fs : Files) (p q : Path) (bytes : ByteArray) :
    (fs.apply (.write p bytes)).file? q = if q = p then some bytes else fs.file? q := by
  by_cases hq : q = p
  · rw [if_pos hq, file?_eq_some, apply, hq, Std.ExtTreeMap.getElem?_insert_self]
  · rw [if_neg hq, ← file?_makeFolder fs p.dropLast q]
    apply file?_congr
    rw [apply, Std.ExtTreeMap.getElem?_insert, if_neg (by simpa using Ne.symm hq)]

theorem getElem?_remove (fs : Files) (p q : Path) :
    (fs.apply (.remove p))[q]? = if q = p then none else fs[q]? := by
  simp only [apply, Std.ExtTreeMap.getElem?_erase, Std.LawfulEqCmp.compare_eq_iff_eq,
    eq_comm (a := p)]

theorem getElem?_ofList_filter (fs : Files) (keep : Path → Bool) (q : Path) :
    (Std.ExtTreeMap.ofList (fs.toList.filter fun e => keep e.1) : Files)[q]? =
      if keep q then fs[q]? else none := by
  by_cases hkept : ∃ e, (q, e) ∈ fs.toList.filter fun e => keep e.1
  · obtain ⟨e, he⟩ := hkept
    obtain ⟨hmem, hkeep⟩ := List.mem_filter.mp he
    rw [if_pos hkeep, Std.ExtTreeMap.mem_toList_iff_getElem?_eq_some.mp hmem]
    exact Std.ExtTreeMap.getElem?_ofList_of_mem Std.ReflCmp.compare_self
      (Std.ExtTreeMap.distinct_keys_toList.filter _) he
  · have gone :
        (Std.ExtTreeMap.ofList (fs.toList.filter fun e => keep e.1) : Files)[q]? = none := by
      apply Std.ExtTreeMap.getElem?_ofList_of_contains_eq_false
      rw [List.contains_eq_any_beq, List.any_eq_false]
      intro r hr heq
      obtain ⟨⟨r, e⟩, he, rfl⟩ := List.mem_map.mp hr
      cases eq_of_beq heq
      exact hkept ⟨e, he⟩
    rw [gone]
    split
    · next hkeep =>
        cases h : fs[q]? with
        | none => rfl
        | some e =>
            have hmem := Std.ExtTreeMap.mem_toList_iff_getElem?_eq_some.mpr h
            exact absurd ⟨e, List.mem_filter.mpr ⟨hmem, hkeep⟩⟩ hkept
    · rfl

/-- The move of something that has nothing below it, such as a file. -/
theorem getElem?_move {source : Path} {e : Entry} (hsource : fs[source]? = some e)
    (alone : ∀ r, fs.contains r → source.isUnder r → r = source) (target q : Path) :
    (fs.apply (.move source target))[q]? =
      if q = target then some e else if q = source then none else fs[q]? := by
  have under : source.isUnder source = true := by simp [Path.isUnder]
  have inside : ∀ r e', (r, e') ∈ (fs.toList.filter fun e => source.isUnder e.1).map
      (fun e => (moved source target e.1, e.2)) ↔ r = target ∧ e' = e := by
    intro r e'
    constructor
    · intro h
      obtain ⟨⟨r', e''⟩, hr', heq⟩ := List.mem_map.mp h
      obtain ⟨hmem, hunder⟩ := List.mem_filter.mp hr'
      have hget := Std.ExtTreeMap.mem_toList_iff_getElem?_eq_some.mp hmem
      have hheld : fs.contains r' = true := by
        rw [Std.ExtTreeMap.contains_eq_isSome_getElem?, hget]
        rfl
      cases alone r' hheld hunder
      cases hsource.symm.trans hget
      obtain ⟨rfl, rfl⟩ := Prod.mk.inj heq
      simp [moved, under]
    · rintro ⟨rfl, rfl⟩
      refine List.mem_map.mpr ⟨(source, e'), List.mem_filter.mpr ⟨?_, under⟩, ?_⟩
      · exact Std.ExtTreeMap.mem_toList_iff_getElem?_eq_some.mpr hsource
      · simp [moved, under]
  simp only [apply, List.partition_eq_filter_filter]
  by_cases hq : q = target
  · rw [if_pos hq]
    exact getElem?_foldl_insert_of_mem ((inside q e).mpr ⟨hq, rfl⟩) fun e' h =>
      ((inside q e').mp h).2
  · rw [if_neg hq, getElem?_foldl_insert_of_not_mem fun e' h => hq ((inside q e').mp h).1]
    refine (getElem?_ofList_filter fs (fun r => !source.isUnder r) q).trans ?_
    by_cases hunder : source.isUnder q = true
    · rw [if_neg (by simp [hunder])]
      split
      · rfl
      · next hne =>
          have absent : fs.contains q = false :=
            Bool.eq_false_iff.mpr fun hheld => hne (alone q hheld hunder)
          rw [Std.ExtTreeMap.contains_eq_isSome_getElem?] at absent
          exact (Option.isSome_eq_false_iff.mp absent |> Option.isNone_iff_eq_none.mp).symm
    · have hne : q ≠ source := fun heq => hunder (heq ▸ under)
      rw [if_pos (by simp [hunder]), if_neg hne]

theorem file?_remove (fs : Files) (p q : Path) :
    (fs.apply (.remove p)).file? q = if q = p then none else fs.file? q := by
  by_cases hq : q = p
  · rw [if_pos hq, file?, getElem?_remove, if_pos hq]
  · rw [if_neg hq]
    exact file?_congr (by rw [getElem?_remove, if_neg hq])

theorem file?_move {source : Path} (hsource : (fs.file? source).isSome)
    (alone : ∀ r, fs.contains r → source.isUnder r → r = source) (target q : Path) :
    (fs.apply (.move source target)).file? q =
      if q = target then fs.file? source else if q = source then none else fs.file? q := by
  obtain ⟨bytes, hbytes⟩ := Option.isSome_iff_exists.mp hsource
  have moved := getElem?_move (file?_eq_some.mp hbytes) alone target q
  split_ifs at moved ⊢ with htarget hq
  · rw [hbytes, file?_eq_some, moved]
  · rw [file?, moved]
  · exact file?_congr moved

end Files

/-! ### The files that a scan loads -/

namespace Library

/-- Whether a path lies below the folder, and in no hidden folder below it. -/
def covers (folder p : Path) : Bool :=
  folder.isUnder p && decide (folder.length < p.length) && isListed folder p

/-- The files that a scan loads, in its order. -/
def documents (folder : Path) (fs : Files) : List Path :=
  (({ folder } : Library).listed fs).filter Plans.follows

variable {folder p : Path} {fs : Files}

theorem mem_filesUnder : p ∈ fs.filesUnder folder ↔
    (fs.file? p).isSome ∧ folder.isUnder p = true ∧ folder.length < p.length := by
  rw [Files.filesUnder, List.mem_filterMap]
  constructor
  · rintro ⟨⟨q, e⟩, hmem, hq⟩
    have hget := Std.ExtTreeMap.mem_toList_iff_getElem?_eq_some.mp hmem
    cases e with
    | folder => cases hq
    | file bytes =>
        simp only [Option.ite_none_right_eq_some, Bool.and_eq_true, decide_eq_true_eq,
          Option.some.injEq] at hq
        obtain ⟨hplace, rfl⟩ := hq
        exact ⟨Option.isSome_of_mem (Files.file?_eq_some.mpr hget), hplace⟩
  · rintro ⟨hfile, hplace⟩
    obtain ⟨bytes, hbytes⟩ := Option.isSome_iff_exists.mp hfile
    refine ⟨(p, .file bytes), ?_, by simp [hplace]⟩
    exact Std.ExtTreeMap.mem_toList_iff_getElem?_eq_some.mpr (Files.file?_eq_some.mp hbytes)

theorem mem_listed {l : Library} :
    p ∈ l.listed fs ↔ covers l.folder p = true ∧ (fs.file? p).isSome := by
  rw [listed, List.mem_filter, mem_filesUnder]
  simp only [covers, Bool.and_eq_true, decide_eq_true_eq]
  tauto

theorem mem_documents : p ∈ documents folder fs ↔
    covers folder p = true ∧ Plans.follows p = true ∧ (fs.file? p).isSome := by
  rw [documents, List.mem_filter, mem_listed]
  tauto

theorem ne_nil_of_covers (h : covers folder p = true) : p ≠ [] := by
  rintro rfl
  simp [covers] at h

end Library

/-! ### Changes of one file -/

namespace FileChange
open Library

/-- The paths at which a change of one file may leave something else than there was. -/
def paths : FileChange → List Path
  | .write p _ => [p]
  | .remove p => [p]
  | .move source target => [source, target]
  | .makeFolder _ => []
  | .removeFolder _ => []

/-- A file that a scan would come by is written, taken away, or moved to another such path. -/
def OfOneFile (folder : Path) (fs : Files) : FileChange → Prop
  | .write p _ => covers folder p = true
  | .remove p => covers folder p = true
  | .move source target => covers folder source = true ∧ covers folder target = true ∧
      source ≠ target ∧ (fs.file? source).isSome ∧
      ∀ r, fs.contains r → source.isUnder r → r = source
  | .makeFolder _ => False
  | .removeFolder _ => False

variable {folder q : Path} {fs : Files} {c : FileChange}

theorem OfOneFile.covers (one : c.OfOneFile folder fs) (hq : q ∈ c.paths) :
    covers folder q = true := by
  cases c with
  | write p bytes => cases List.mem_singleton.mp hq; exact one
  | remove p => cases List.mem_singleton.mp hq; exact one
  | move source target =>
      obtain rfl | rfl : q = source ∨ q = target := by simpa [paths] using hq
      · exact one.1
      · exact one.2.1
  | makeFolder p => exact one.elim
  | removeFolder p => exact one.elim

theorem OfOneFile.file?_eq (one : c.OfOneFile folder fs) (hq : q ∉ c.paths) :
    (fs.apply c).file? q = fs.file? q := by
  cases c with
  | write p bytes => rw [Files.file?_write, if_neg (by simpa [paths] using hq)]
  | remove p => rw [Files.file?_remove, if_neg (by simpa [paths] using hq)]
  | move source target =>
      obtain ⟨-, -, -, hfile, alone⟩ := one
      simp only [paths, List.mem_cons, List.not_mem_nil, or_false, not_or] at hq
      rw [Files.file?_move hfile alone, if_neg hq.2, if_neg hq.1]
  | makeFolder p => exact one.elim
  | removeFolder p => exact one.elim

/-- What the change leaves at its paths is a file or nothing. -/
theorem OfOneFile.file?_of_holds (one : c.OfOneFile folder fs) (hq : q ∈ c.paths)
    (held : (fs.apply c).holds q = true) : ((fs.apply c).file? q).isSome := by
  have present : (fs.apply c)[q]?.isSome := by
    have hne := ne_nil_of_covers (one.covers hq)
    simpa [Files.holds, hne] using held
  cases c with
  | write p bytes =>
      cases List.mem_singleton.mp hq
      rw [Files.file?_write, if_pos rfl]
      rfl
  | remove p =>
      cases List.mem_singleton.mp hq
      simp [Files.getElem?_remove] at present
  | move source target =>
      obtain ⟨-, -, hne, hfile, alone⟩ := one
      by_cases htarget : q = target
      · rw [Files.file?_move hfile alone, if_pos htarget]
        exact hfile
      · have hsource : q = source := by simpa [paths, htarget] using hq
        obtain ⟨bytes, hbytes⟩ := Option.isSome_iff_exists.mp hfile
        rw [Files.getElem?_move (Files.file?_eq_some.mp hbytes) alone, if_neg htarget,
          if_pos hsource] at present
        cases present
  | makeFolder p => exact one.elim
  | removeFolder p => exact one.elim

end FileChange
end Shortlist
