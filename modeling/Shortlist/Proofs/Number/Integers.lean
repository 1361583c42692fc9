import Shortlist.Number.Decimal
import Shortlist.Proofs.Text.Trim
/-! Integers in decimal. What is written for an integer is read as that integer, and whatever is
read as an integer could have been read as a decimal too. -/
namespace Shortlist
namespace Number

variable {cs : List Char} {c : Char}

theorem not_isSign_of_isDigit (h : isDigit c = true) : c ≠ '-' ∧ c ≠ '+' := by
  constructor <;> rintro rfl <;> cases h

theorem splitSign_of_all_isDigit (h : cs.all isDigit = true) : splitSign cs = (false, cs) := by
  cases cs with
  | nil => rfl
  | cons c cs =>
      obtain ⟨hminus, hplus⟩ := not_isSign_of_isDigit (List.all_eq_true.mp h c List.mem_cons_self)
      unfold splitSign
      split
      · next heq => exact absurd (List.cons.inj heq).1 hminus
      · next heq => exact absurd (List.cons.inj heq).1 hplus
      · rfl

/-! ### Back from text -/

theorem splitSign_intDigits (n : Int) :
    splitSign (intDigits n) = (decide (n < 0), digits n.natAbs) := by
  unfold intDigits
  split
  · next hneg => simp [splitSign, hneg]
  · next hpos =>
      rw [splitSign_of_all_isDigit (all_isDigit_digits _)]
      simp [hpos]

theorem signed_natAbs (n : Int) : signed (decide (n < 0)) n.natAbs = n := by
  unfold signed
  split
  · next hneg =>
      rw [decide_eq_true_eq] at hneg
      omega
  · next hpos =>
      rw [decide_eq_true_eq] at hpos
      omega

theorem readInt?_intDigits (n : Int) : readInt? (intDigits n) = some n := by
  have there : (digits n.natAbs).isEmpty = false :=
    List.isEmpty_eq_false_iff.mpr (digits_ne_nil n.natAbs)
  simp only [readInt?, splitSign_intDigits, there, all_isDigit_digits, ofDigits_digits,
    signed_natAbs, Bool.not_false, Bool.and_true, if_true]

theorem inInt64_toInt (n : Int64) : inInt64 n.toInt = true := by
  have low := n.le_toInt
  have high := n.toInt_lt
  unfold inInt64 signBit
  rw [Bool.and_eq_true, decide_eq_true_eq, decide_eq_true_eq]
  omega

theorem readInt64?_intDigits (n : Int64) : readInt64? (intDigits n.toInt) = some n := by
  rw [readInt64?, readInt?_intDigits]
  simp only [inInt64_toInt, if_true, Int64.ofInt_toInt]

/-! ### Integers among the decimals -/

theorem readDecimal?_of_digits (hne : cs ≠ []) (h : cs.all isDigit = true) :
    ∃ d, readDecimal? cs = some d := by
  have whole : cs.takeWhile isDigit = cs := List.takeWhile_eq_self_iff.mpr (List.all_eq_true.mp h)
  have rest : cs.dropWhile isDigit = [] := List.dropWhile_eq_nil_iff.mpr (List.all_eq_true.mp h)
  have there : cs.isEmpty = false := by simpa using hne
  exact ⟨_, by simp only [readDecimal?, whole, rest, there, Bool.false_and]; rfl⟩

theorem readFloat?_of_readInt? {n : Int} (h : readInt? cs = some n) :
    ∃ x, readFloat? cs = some x := by
  simp only [readInt?] at h
  split at h
  · next hdigits =>
      simp only [Bool.and_eq_true, Bool.not_eq_true', List.isEmpty_eq_false_iff] at hdigits
      obtain ⟨d, hd⟩ := readDecimal?_of_digits hdigits.1 hdigits.2
      obtain ⟨x, hx⟩ : ∃ x, readMagnitude? (splitSign cs).2 = some x := by
        unfold readMagnitude?
        simp only [hd]
        split
        · exact ⟨_, rfl⟩
        · split <;> exact ⟨_, rfl⟩
      exact ⟨_, by simp only [readFloat?, hx]; rfl⟩
  · cases h

theorem readFloat?_of_readInt64? {n : Int64} (h : readInt64? cs = some n) :
    ∃ x, readFloat? cs = some x := by
  unfold readInt64? at h
  split at h
  · next hint => exact readFloat?_of_readInt? hint
  · cases h

/-! ### Trimming -/

theorem isBlank_of_isDigit (h : isDigit c = true) : Text.isBlank c = false := by
  simp only [isDigit, Bool.and_eq_true, decide_eq_true_eq] at h
  simp only [Text.isBlank, Bool.or_eq_false_iff, Bool.and_eq_false_iff, decide_eq_false_iff_not,
    beq_eq_false_iff_ne]
  omega

theorem digits_isBlank (n : Nat) : ∀ c ∈ digits n, Text.isBlank c = false := fun c hc =>
  isBlank_of_isDigit (List.all_eq_true.mp (all_isDigit_digits n) c hc)

theorem intDigits_isBlank (n : Int) : ∀ c ∈ intDigits n, Text.isBlank c = false := by
  unfold intDigits
  split
  · exact List.forall_mem_cons.mpr ⟨by decide, digits_isBlank _⟩
  · exact digits_isBlank _

theorem intText_tight (n : Int) : Text.Tight (intText n) := by
  rw [intText]
  refine ⟨fun c hc => ?_, fun c hc => ?_⟩
  · rw [String.toList_ofList] at hc
    exact intDigits_isBlank n c (List.mem_of_mem_head? hc)
  · rw [String.toList_ofList] at hc
    exact intDigits_isBlank n c (List.mem_of_mem_getLast? hc)

end Number
end Shortlist
