import Shortlist.Proofs.Text.Trim
import Shortlist.Value.Coercion
/-! Text as a list. The parts of comma-separated text are determined by how it was put together:
blanks around a part and pieces without a part leave no trace. -/
namespace Shortlist
namespace Text

/-- What can be listed between commas: text that is there, without blanks at its ends. -/
structure Part (s : String) : Prop where
  tight : Tight s
  nonempty : s ≠ ""
  unbroken : ',' ∉ s.toList

def Blank (s : String) : Prop := ∀ c ∈ s.toList, isBlank c = true

/-- Parts, and the pieces of text that hold them in order. A piece holds one part between blanks or
consists of blanks. -/
inductive Spaced : List String → List String → Prop
  | nil : Spaced [] []
  | blank {piece : String} {parts pieces : List String} :
      Blank piece → Spaced parts pieces → Spaced parts (piece :: pieces)
  | part {before part after : String} {parts pieces : List String} :
      Blank before → Blank after → Spaced parts pieces →
      Spaced (part :: parts) ((before ++ part ++ after) :: pieces)

/-- The text is one way to write down the parts. -/
structure Lists (text : String) (parts : List String) : Prop where
  part : ∀ part ∈ parts, Part part
  joined : ∃ pieces, Spaced parts pieces ∧ text = ",".intercalate pieces

/-- The parts of pieces that lie between separators. -/
def partsOf (pieces : List (List Char)) : List String :=
  ((pieces.map trimmed).filter (!·.isEmpty)).map String.ofList

theorem partsOf_cons (piece : List Char) (pieces : List (List Char)) :
    partsOf (piece :: pieces) =
      if trimmed piece = [] then partsOf pieces
      else String.ofList (trimmed piece) :: partsOf pieces := by
  by_cases h : trimmed piece = []
  · simp [partsOf, h]
  · simp [partsOf, h]

theorem pieces_eq_splitOn (sep : Char) (cs : List Char) : pieces sep cs = cs.splitOn sep := by
  induction cs with
  | nil => rfl
  | cons c cs ih =>
      rw [pieces, List.splitOn_cons_eq_if_modifyHead, ih]
      simp only [beq_iff_eq]
      split
      · rfl
      · cases h : cs.splitOn sep with
        | nil => exact absurd h (List.splitOn_ne_nil sep cs)
        | cons p ps => rfl

theorem not_mem_of_mem_pieces (sep : Char) (cs : List Char) : ∀ p ∈ pieces sep cs, sep ∉ p := by
  induction cs with
  | nil => simp [pieces]
  | cons c cs ih =>
      rw [pieces]
      split
      · exact List.forall_mem_cons.mpr ⟨List.not_mem_nil, ih⟩
      · next hc =>
          cases h : pieces sep cs with
          | nil => exact absurd h (pieces_ne_nil sep cs)
          | cons p ps =>
              rw [h, List.forall_mem_cons] at ih
              exact List.forall_mem_cons.mpr ⟨List.not_mem_cons_of_ne_of_not_mem (Ne.symm hc) ih.1, ih.2⟩

variable {text : String} {parts pieces : List String}

/-! ### Reading what was joined -/

theorem Spaced.partsOf_eq (h : Spaced parts pieces) (hparts : ∀ part ∈ parts, Part part) :
    partsOf (pieces.map String.toList) = parts := by
  induction h with
  | nil => rfl
  | blank hblank _ ih =>
      rw [List.map_cons, partsOf_cons, if_pos (trimmed_of_blank hblank)]
      exact ih hparts
  | @part before part after parts pieces hbefore hafter _ ih =>
      obtain ⟨hpart, hrest⟩ := List.forall_mem_cons.mp hparts
      have read : trimmed (before ++ part ++ after).toList = part.toList := by
        rw [String.toList_append, String.toList_append, trimmed_append hbefore hafter,
          trimmed_of_tight hpart.tight]
      have there : part.toList ≠ [] := by simpa using hpart.nonempty
      rw [List.map_cons, partsOf_cons, read, if_neg there, String.ofList_toList, ih hrest]

theorem Blank.unbroken {s : String} (h : Blank s) : ',' ∉ s.toList := by
  intro hcomma
  cases h ',' hcomma

theorem Spaced.unbroken (h : Spaced parts pieces) (hparts : ∀ part ∈ parts, Part part) :
    ∀ piece ∈ pieces, ',' ∉ piece.toList := by
  induction h with
  | nil => simp
  | blank hblank _ ih => exact List.forall_mem_cons.mpr ⟨hblank.unbroken, ih hparts⟩
  | part hbefore hafter _ ih =>
      obtain ⟨hpart, hrest⟩ := List.forall_mem_cons.mp hparts
      refine List.forall_mem_cons.mpr ⟨?_, ih hrest⟩
      simp [hbefore.unbroken, hpart.unbroken, hafter.unbroken]

theorem Lists.commaParts_eq (h : Lists text parts) : Value.commaParts text = parts := by
  obtain ⟨pieces, hspaced, rfl⟩ := h.joined
  have read := hspaced.partsOf_eq h.part
  cases pieces with
  | nil =>
      cases hspaced
      rfl
  | cons piece rest =>
      have unbroken : ∀ p ∈ (piece :: rest).map String.toList, ',' ∉ p := by
        simpa using hspaced.unbroken h.part
      have split : Text.pieces ',' (",".intercalate (piece :: rest)).toList =
          (piece :: rest).map String.toList := by
        rw [pieces_eq_splitOn, String.toList_intercalate]
        exact List.splitOn_intercalate ',' unbroken (List.cons_ne_nil _ _)
      rw [← read, ← split]
      rfl

/-! ### Joining what was read -/

theorem spaced_partsOf (ps : List (List Char)) : Spaced (partsOf ps) (ps.map String.ofList) := by
  induction ps with
  | nil => exact .nil
  | cons p ps ih =>
      obtain ⟨before, after, hp, hbefore, hafter⟩ := exists_padding p
      rw [partsOf_cons, List.map_cons]
      split
      · next hnone =>
          refine .blank (fun c hc => ?_) ih
          rw [hp, hnone, String.toList_ofList] at hc
          simp only [List.append_nil, List.mem_append] at hc
          exact hc.elim (hbefore c) (hafter c)
      · have piece : String.ofList p =
            String.ofList before ++ String.ofList (trimmed p) ++ String.ofList after := by
          conv_lhs => rw [hp]
          rw [String.ofList_append, String.ofList_append]
        rw [piece]
        exact .part (by simpa [Blank] using hbefore) (by simpa [Blank] using hafter) ih

theorem part_of_mem_partsOf {ps : List (List Char)} (h : ∀ p ∈ ps, ',' ∉ p) :
    ∀ part ∈ partsOf ps, Part part := by
  intro part hpart
  simp only [partsOf, List.mem_map, List.mem_filter] at hpart
  obtain ⟨cs, ⟨⟨p, hp, rfl⟩, hthere⟩, rfl⟩ := hpart
  obtain ⟨before, after, hpad, -, -⟩ := exists_padding p
  refine ⟨?_, by simpa using hthere, ?_⟩
  · simpa [trim] using trim_tight (String.ofList p)
  · intro hcomma
    rw [String.toList_ofList] at hcomma
    have inside : ',' ∈ before ++ trimmed p ++ after := by simp [hcomma]
    exact h p hp (hpad ▸ inside)

theorem lists_commaParts (text : String) : Lists text (Value.commaParts text) := by
  refine ⟨part_of_mem_partsOf (not_mem_of_mem_pieces ',' text.toList), _, spaced_partsOf _, ?_⟩
  have read : String.toList ∘ String.ofList = id := funext fun _ => String.toList_ofList
  apply String.toList_injective
  rw [String.toList_intercalate, List.map_map, read, List.map_id, pieces_eq_splitOn]
  exact (List.intercalate_splitOn ',').symm

/-- Each text lists just the parts it is read as. -/
theorem lists_iff : Lists text parts ↔ Value.commaParts text = parts := by
  constructor
  · exact Lists.commaParts_eq
  · rintro rfl
    exact lists_commaParts text

end Text
end Shortlist
