import Mathlib.Data.List.DropRight
import Shortlist.Text.Blank
/-! Trimmed text: nothing is left to trim at either end, and blanks around it do not matter. -/
namespace Shortlist.Text

/-- Text that neither begins nor ends with a blank. -/
structure Tight (s : String) : Prop where
  first : ∀ c ∈ s.toList.head?, isBlank c = false
  last : ∀ c ∈ s.toList.getLast?, isBlank c = false

theorem head?_trimLeft {cs : List Char} {c : Char} (h : c ∈ (trimLeft cs).head?) :
    isBlank c = false := by
  have hnot := List.head?_dropWhile_not isBlank cs
  rw [Option.mem_def, trimLeft] at h
  rw [h] at hnot
  simpa using hnot

theorem getLast?_trimRight {cs : List Char} {c : Char} (h : c ∈ (trimRight cs).getLast?) :
    isBlank c = false := by
  obtain ⟨hne, rfl⟩ := List.mem_getLast?_eq_getLast h
  exact Bool.eq_false_iff.mpr (List.rdropWhile_last_not isBlank cs hne)

/-- What is left after the trailing blanks are gone begins as before. -/
theorem head?_trimRight {cs : List Char} {c : Char} (h : c ∈ (trimRight cs).head?) :
    c ∈ cs.head? := by
  obtain ⟨rest, hrest⟩ := List.rdropWhile_prefix isBlank cs
  rw [← hrest]
  exact List.mem_head?_append_of_mem_head? h

theorem trim_tight (s : String) : Tight (trim s) := by
  refine ⟨?_, ?_⟩
  · intro c hc
    rw [trim, String.toList_ofList, trimmed] at hc
    exact head?_trimLeft (head?_trimRight hc)
  · intro c hc
    rw [trim, String.toList_ofList, trimmed] at hc
    exact getLast?_trimRight hc

/-! ### Padding -/

theorem trimmed_of_tight {s : String} (h : Tight s) : trimmed s.toList = s.toList := by
  have left : trimLeft s.toList = s.toList := by
    refine List.dropWhile_eq_self_iff.mpr fun hpos => ?_
    have hne := List.ne_nil_of_length_pos hpos
    rw [← List.head_eq_getElem hne, h.first _ (List.head?_eq_some_head hne)]
    exact Bool.false_ne_true
  have right : trimRight s.toList = s.toList := by
    refine List.rdropWhile_eq_self_iff.mpr fun hne => ?_
    rw [h.last _ (List.getLast?_eq_some_getLast hne)]
    exact Bool.false_ne_true
  rw [trimmed, left, right]

variable {before cs after : List Char}

theorem trimRight_append (hafter : ∀ c ∈ after, isBlank c = true) :
    trimRight (cs ++ after) = trimRight cs := by
  have blank : ∀ c ∈ after.reverse, isBlank c = true := fun c hc => hafter c (List.mem_reverse.mp hc)
  rw [trimRight, List.reverse_append, List.dropWhile_append_of_pos blank, trimRight]

/-- Blanks around text make no difference to what is left of it. -/
theorem trimmed_append (hbefore : ∀ c ∈ before, isBlank c = true)
    (hafter : ∀ c ∈ after, isBlank c = true) : trimmed (before ++ cs ++ after) = trimmed cs := by
  rw [trimmed, trimLeft, List.append_assoc, List.dropWhile_append_of_pos hbefore,
    List.dropWhile_append]
  split
  · next hblank =>
      have none : trimLeft cs = [] := List.isEmpty_iff.mp hblank
      rw [trimmed, none, List.dropWhile_eq_nil_iff.mpr hafter]
  · exact trimRight_append hafter

theorem trimmed_of_blank (h : ∀ c ∈ cs, isBlank c = true) : trimmed cs = [] := by
  have padded : trimmed (cs ++ [] ++ []) = trimmed [] := trimmed_append h (by simp)
  simpa [trimmed, trimLeft, trimRight] using padded

/-- Only blanks are lost. -/
theorem exists_padding (cs : List Char) : ∃ before after, cs = before ++ trimmed cs ++ after ∧
    (∀ c ∈ before, isBlank c = true) ∧ ∀ c ∈ after, isBlank c = true := by
  refine ⟨cs.takeWhile isBlank, (trimLeft cs).rtakeWhile isBlank, ?_, ?_, ?_⟩
  · rw [List.append_assoc]
    have right : trimmed cs ++ (trimLeft cs).rtakeWhile isBlank = trimLeft cs :=
      List.rdropWhile_append_rtakeWhile
    rw [right]
    exact List.takeWhile_append_dropWhile.symm
  · exact fun c hc => List.mem_takeWhile_imp hc
  · exact fun c hc => List.mem_rtakeWhile_imp hc

end Shortlist.Text
