import Shortlist.Proofs.Basic
import Shortlist.Rule.Evaluate
/-! How a rule over rules comes to its verdict from those of its children. -/
namespace Shortlist.Rule

variable {s t : Scopes} {r : Rule} {rs rs' : List Rule} {err : EvalError}

theorem evaluateAll_cons (s : Scopes) (r : Rule) (rs : List Rule) :
    evaluateAll s (r :: rs) = (do
      if ← r.verdict s then evaluateAll s rs else return false) := rfl

theorem evaluateAny_cons (s : Scopes) (r : Rule) (rs : List Rule) :
    evaluateAny s (r :: rs) = (do
      if ← r.verdict s then return true else evaluateAny s rs) := rfl

/-- A conjunction needs a child to fail. -/
theorem evaluateAll_of_false (hne : rs ≠ []) (h : ∀ r ∈ rs, r.verdict s = .ok false) :
    evaluateAll s rs = .ok false := by
  cases rs with
  | nil => exact absurd rfl hne
  | cons r rs =>
      rw [evaluateAll_cons, h r List.mem_cons_self]
      rfl

theorem evaluateAny_of_false (h : ∀ r ∈ rs, r.verdict s = .ok false) :
    evaluateAny s rs = .ok false := by
  induction rs with
  | nil => rfl
  | cons r rs ih =>
      rw [evaluateAny_cons, h r List.mem_cons_self]
      exact ih fun r' hr' => h r' (List.mem_cons_of_mem r hr')

theorem evaluateAll_eq_true :
    evaluateAll s rs = .ok true ↔ ∀ r ∈ rs, r.verdict s = .ok true := by
  induction rs with
  | nil => simp [evaluateAll]
  | cons r rs ih =>
      rw [evaluateAll_cons, bind_eq_ok, List.forall_mem_cons, ← ih]
      constructor
      · rintro ⟨passed, hpassed, hrest⟩
        cases passed with
        | true => exact ⟨hpassed, hrest⟩
        | false => cases hrest
      · rintro ⟨hpassed, hrest⟩
        exact ⟨true, hpassed, hrest⟩

theorem error_of_evaluateAll (h : evaluateAll s rs = .error err) :
    ∃ r ∈ rs, r.verdict s = .error err := by
  induction rs with
  | nil => cases h
  | cons r rs ih =>
      rw [evaluateAll_cons, bind_eq_error] at h
      obtain hr | ⟨passed, -, hrest⟩ := h
      · exact ⟨r, List.mem_cons_self, hr⟩
      · cases passed with
        | false => cases hrest
        | true =>
            obtain ⟨r', hmem, hr'⟩ := ih hrest
            exact ⟨r', List.mem_cons_of_mem r hmem, hr'⟩

theorem error_of_evaluateAny (h : evaluateAny s rs = .error err) :
    ∃ r ∈ rs, r.verdict s = .error err := by
  induction rs with
  | nil => cases h
  | cons r rs ih =>
      rw [evaluateAny_cons, bind_eq_error] at h
      obtain hr | ⟨passed, -, hrest⟩ := h
      · exact ⟨r, List.mem_cons_self, hr⟩
      · cases passed with
        | true => cases hrest
        | false =>
            obtain ⟨r', hmem, hr'⟩ := ih hrest
            exact ⟨r', List.mem_cons_of_mem r hmem, hr'⟩

/-- Children with the opposite verdicts decide at the same place. -/
theorem evaluateAll_of_opposite
    (h : List.Forall₂ (fun r r' => r'.verdict s = (r.verdict s).map (!·)) rs rs') :
    evaluateAll s rs' = (evaluateAny s rs).map (!·) := by
  induction h with
  | nil => rfl
  | @cons r r' rs rs' hr _ ih =>
      rw [evaluateAll_cons, evaluateAny_cons, hr, ih]
      cases r.verdict s with
      | error err => rfl
      | ok passed => cases passed <;> rfl

theorem evaluateAll_congr (h : ∀ r ∈ rs, r.verdict s = r.verdict t) :
    evaluateAll s rs = evaluateAll t rs := by
  induction rs with
  | nil => rfl
  | cons r rs ih =>
      obtain ⟨hr, hrs⟩ := List.forall_mem_cons.mp h
      rw [evaluateAll_cons, evaluateAll_cons, hr, ih hrs]

theorem evaluateAny_congr (h : ∀ r ∈ rs, r.verdict s = r.verdict t) :
    evaluateAny s rs = evaluateAny t rs := by
  induction rs with
  | nil => rfl
  | cons r rs ih =>
      obtain ⟨hr, hrs⟩ := List.forall_mem_cons.mp h
      rw [evaluateAny_cons, evaluateAny_cons, hr, ih hrs]

end Shortlist.Rule
