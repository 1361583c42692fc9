import Mathlib.Data.List.Sort
import Mathlib.Data.List.Lex
import Shortlist.Proofs.Library.Contents
/-! The order in which a scan comes by the files of a folder. It is the order of their paths, and
the one in which a walk through the folder, from entry to entry, would come by them. -/
namespace Shortlist
open Library

/-! ### Paths -/

/-- Names are compared byte by byte. -/
instance byteOrder : LinearOrder UInt8 where
  le_refl := UInt8.le_refl
  le_trans _ _ _ := UInt8.le_trans
  le_antisymm _ _ := UInt8.le_antisymm
  le_total := UInt8.le_total
  lt_iff_le_not_ge a b := by simp only [UInt8.lt_iff_toNat_lt, UInt8.le_iff_toNat_le]; omega
  toDecidableLE := inferInstance
  toDecidableEq := inferInstance
  toDecidableLT := inferInstance
  toOrd := inferInstance
  compare_eq_compareOfLessAndEq _ _ := rfl

theorem compare_list_eq_lt {α : Type} [Ord α] [LT α] [Std.LawfulLTOrd α] [Std.LawfulEqOrd α]
    {as bs : List α} : compare as bs = .lt ↔ as < bs := by
  induction as generalizing bs with
  | nil => cases bs with
      | nil => simp
      | cons b bs => simp
  | cons a as ih => cases bs with
      | nil => simp
      | cons b bs =>
          rw [List.compare_eq_compareLex] at ih ⊢
          rw [List.compareLex_cons_cons, List.cons_lt_cons_iff, Ordering.then_eq_lt, ih,
            Std.LawfulLTCmp.eq_lt_iff_lt, Std.compare_eq_iff_eq]

instance : Std.LawfulLTOrd FileName where
  eq_lt_iff_lt := compare_list_eq_lt

namespace Path
variable {folder p : Path}

theorem append_lt_append {p q : Path} (hlt : p < q) (hlength : p.length = q.length)
    (r s : Path) : p ++ r < q ++ s := by
  induction p generalizing q with
  | nil => cases q with
      | nil => simp at hlt
      | cons name q => simp at hlength
  | cons name p ih => cases q with
      | nil => simp at hlength
      | cons name' q =>
          apply List.cons_lt_cons_iff.mpr
          apply (List.cons_lt_cons_iff.mp hlt).imp_right
          rintro ⟨hname, hrest⟩
          exact ⟨hname, ih hrest (by simpa using hlength)⟩

theorem isHidden_concat (p : Path) (name : FileName) :
    Path.isHidden (p ++ [name]) = name.isHidden := by
  simp [Path.isHidden, Path.name]

/-- The path lies below the folder, and no folder in between is hidden. -/
structure Meets (folder p : Path) : Prop where
  below : folder <+: p
  proper : folder ≠ p
  shown : ∀ d : Path, folder <+: d → d <+: p → d ≠ folder → d ≠ p → d.isHidden = false

end Path

namespace Library
variable {folder p : Path} {fs : Files}

theorem covers_append {rest : Path} : covers folder (folder ++ rest) = true ↔
    rest ≠ [] ∧ ∀ name ∈ rest.dropLast, name.isHidden = false := by
  simp [covers, Path.isUnder, isListed, List.length_pos_iff]

theorem covers_below {name : FileName} {rest : Path} (hrest : rest ≠ []) :
    covers folder (folder ++ name :: rest) = true ↔
      Path.isHidden (folder ++ [name]) = false ∧
        covers (folder ++ [name]) (folder ++ [name] ++ rest) = true := by
  rw [covers_append, covers_append, Path.isHidden_concat, List.dropLast_cons_of_ne_nil hrest,
    List.forall_mem_cons]
  simp [hrest]

theorem covers_iff_meets : covers folder p = true ↔ folder.Meets p := by
  constructor
  · intro h
    obtain ⟨rest, rfl⟩ : folder <+: p := by
      simp only [covers, Path.isUnder, Bool.and_eq_true] at h
      exact List.isPrefixOf_iff_prefix.mp h.1.1
    obtain ⟨hrest, hnames⟩ := covers_append.mp h
    refine ⟨List.prefix_append _ _, by simpa using hrest, ?_⟩
    rintro d ⟨part, rfl⟩ hp hfolder hne
    obtain ⟨after, rfl⟩ := (List.prefix_append_right_inj folder).mp hp
    obtain rfl | ⟨init, name, rfl⟩ := part.eq_nil_or_concat'
    · simp at hfolder
    · have hafter : after ≠ [] := by
        rintro rfl
        simp at hne
      rw [← List.append_assoc, Path.isHidden_concat]
      apply hnames
      rw [List.dropLast_append_of_ne_nil hafter]
      simp
  · intro h
    obtain ⟨rest, rfl⟩ := h.below
    obtain rfl | ⟨names, last, rfl⟩ := rest.eq_nil_or_concat'
    · simpa using h.proper
    · refine covers_append.mpr ⟨by simp, ?_⟩
      intro name hname
      rw [List.dropLast_concat] at hname
      obtain ⟨init, after, rfl⟩ := List.append_of_mem hname
      rw [← Path.isHidden_concat (folder ++ init) name]
      apply h.shown
      · exact ⟨init ++ [name], by simp⟩
      · exact ⟨after ++ [last], by simp⟩
      · simp
      · simp

/-! ### Order -/

theorem filesUnder_sorted (fs : Files) (folder : Path) :
    (fs.filesUnder folder).Pairwise (· < ·) := by
  have keys := Std.ExtTreeMap.ordered_keys_toList (t := fs)
  refine keys.filterMap _ ?_
  rintro ⟨p, e⟩ ⟨q, e'⟩ hlt r hr s hs
  cases e with
  | folder => cases hr
  | file bytes => cases e' with
      | folder => cases hs
      | file bytes' =>
          simp only [Option.ite_none_right_eq_some, Option.some.injEq] at hr hs
          obtain ⟨-, rfl⟩ := hr
          obtain ⟨-, rfl⟩ := hs
          exact compare_list_eq_lt.mp hlt

theorem listed_sorted (l : Library) (fs : Files) : (l.listed fs).Pairwise (· < ·) :=
  (filesUnder_sorted fs l.folder).filter _

theorem documents_sorted (folder : Path) (fs : Files) :
    (documents folder fs).Pairwise (· < ·) :=
  (listed_sorted { folder } fs).filter _

/-! ### A walk -/

end Library

namespace Files

/-- The folders around each entry are there. -/
def IsTree (fs : Files) : Prop :=
  ∀ p d : Path, p ∈ fs → d <+: p → d ≠ p → fs.isFolder d = true

/-- What is in the folder itself, in the order of the names. -/
def entries (fs : Files) (folder : Path) : List Path :=
  fs.keys.filter fun p => p ≠ [] ∧ p.dropLast = folder

variable {fs : Files} {folder p : Path}

theorem mem_entries : p ∈ fs.entries folder ↔ p ∈ fs ∧ ∃ name, p = folder ++ [name] := by
  rw [entries, List.mem_filter, Std.ExtTreeMap.mem_keys, decide_eq_true_eq]
  refine and_congr_right fun _ => ?_
  constructor
  · rintro ⟨hne, rfl⟩
    exact ⟨p.getLast hne, (List.dropLast_append_getLast hne).symm⟩
  · rintro ⟨name, rfl⟩
    simp

theorem entries_sorted (fs : Files) (folder : Path) : (fs.entries folder).Pairwise (· < ·) := by
  apply List.Pairwise.filter
  exact Std.ExtTreeMap.ordered_keys.imp compare_list_eq_lt.mp

theorem mem_of_file? (h : (fs.file? p).isSome) : p ∈ fs := by
  obtain ⟨bytes, hbytes⟩ := Option.isSome_iff_exists.mp h
  rw [Std.ExtTreeMap.mem_iff_isSome_getElem?, file?_eq_some.mp hbytes]
  rfl

theorem isFolder_eq_true (hp : p ≠ []) : fs.isFolder p = true ↔ fs[p]? = some .folder := by
  unfold isFolder
  cases hget : fs[p]? with
  | none => simp [hp]
  | some e => cases e with
      | folder => simp
      | file bytes => simp [hp]

end Files

namespace Library
variable {folder p d : Path} {fs : Files}

/-- What a walk comes by at one entry of a folder: a file, or what is in a folder that is not
hidden. -/
def listedAt (fs : Files) (d : Path) : List Path :=
  if (fs.file? d).isSome then [d]
  else if d.isHidden then []
  else ({ folder := d } : Library).listed fs

theorem mem_listedAt : p ∈ listedAt fs d ↔ (fs.file? p).isSome ∧
    (p = d ∨ fs.file? d = none ∧ d.isHidden = false ∧ covers d p = true) := by
  unfold listedAt
  cases hfile : fs.file? d with
  | some bytes =>
      suffices p = d → (fs.file? p).isSome by simpa
      rintro rfl
      simp [hfile]
  | none =>
      have hne : (fs.file? p).isSome → p ≠ d := by
        rintro h rfl
        simp [hfile] at h
      cases hhidden : d.isHidden with
      | true => simpa using hne
      | false => simpa [mem_listed] using by tauto

theorem listedAt_sorted (fs : Files) (d : Path) : (listedAt fs d).Pairwise (· < ·) := by
  unfold listedAt
  split_ifs with hfile hhidden
  · exact List.pairwise_singleton _ d
  · exact List.Pairwise.nil
  · exact listed_sorted { folder := d } fs

theorem prefix_of_mem_listedAt (h : p ∈ listedAt fs d) : d <+: p := by
  obtain ⟨-, rfl | ⟨-, -, hcovers⟩⟩ := mem_listedAt.mp h
  · exact List.prefix_refl p
  · exact (covers_iff_meets.mp hcovers).below

/-- A scan comes by the files of a folder as a walk does that takes the entries of the folder in
turn, and walks through each folder among them that is not hidden before it goes on. -/
theorem listed_eq_walk (tree : fs.IsTree) (folder : Path) :
    ({ folder } : Library).listed fs = (fs.entries folder).flatMap (listedAt fs) := by
  have sorted : ((fs.entries folder).flatMap (listedAt fs)).Pairwise (· < ·) := by
    refine List.pairwise_flatMap.mpr ⟨fun d _ => listedAt_sorted fs d, ?_⟩
    apply (fs.entries_sorted folder).imp_of_mem
    intro d d' hd hd' hlt p hp p' hp'
    obtain ⟨-, name, rfl⟩ := Files.mem_entries.mp hd
    obtain ⟨-, name', rfl⟩ := Files.mem_entries.mp hd'
    obtain ⟨rest, rfl⟩ := prefix_of_mem_listedAt hp
    obtain ⟨rest', rfl⟩ := prefix_of_mem_listedAt hp'
    exact Path.append_lt_append hlt (by simp) rest rest'
  refine (listed_sorted { folder } fs).eq_of_mem_iff sorted fun p => ?_
  rw [mem_listed, List.mem_flatMap]
  constructor
  · rintro ⟨hcovers, hfile⟩
    obtain ⟨rest, rfl⟩ := (covers_iff_meets.mp hcovers).below
    cases rest with
    | nil => simp [covers] at hcovers
    | cons name rest =>
        by_cases hrest : rest = []
        · subst hrest
          exact ⟨_, Files.mem_entries.mpr ⟨Files.mem_of_file? hfile, name, rfl⟩,
            mem_listedAt.mpr ⟨hfile, .inl rfl⟩⟩
        · -- The entry of the folder on the way to the file is a folder itself.
          obtain ⟨hhidden, hbelow⟩ := (covers_below hrest).mp hcovers
          have held := tree _ (folder ++ [name]) (Files.mem_of_file? hfile) ⟨rest, by simp⟩
            (by simpa using Ne.symm hrest)
          have entry := (Files.isFolder_eq_true (by simp)).mp held
          refine ⟨folder ++ [name], Files.mem_entries.mpr ⟨?_, name, rfl⟩, ?_⟩
          · rw [Std.ExtTreeMap.mem_iff_isSome_getElem?, entry]
            rfl
          · rw [mem_listedAt]
            refine ⟨hfile, .inr ⟨?_, hhidden, ?_⟩⟩
            · rw [Files.file?, entry]
            · simpa using hbelow
  · rintro ⟨d, hd, hp⟩
    obtain ⟨-, name, rfl⟩ := Files.mem_entries.mp hd
    obtain ⟨hfile, rfl | ⟨-, hhidden, hcovers⟩⟩ := mem_listedAt.mp hp
    · exact ⟨covers_append.mpr (by simp), hfile⟩
    · have meets := covers_iff_meets.mp hcovers
      obtain ⟨rest, rfl⟩ := meets.below
      have hrest : rest ≠ [] := by simpa using meets.proper
      refine ⟨?_, hfile⟩
      rw [List.append_assoc]
      exact (covers_below hrest).mpr ⟨hhidden, hcovers⟩

end Library
end Shortlist
