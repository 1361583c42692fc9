import Shortlist.Proofs.Rule.Children
/-! Rules over rules, nested in one way or another. Such a rule has the outcome of the first child
that decides it, and it does not matter how the children are grouped under combinators of the same
kind. -/
namespace Shortlist

/-- What a combined rule says when none of its children decides. -/
def Combinator.neutral : Combinator → Bool
  | .and => true
  | .or => false

namespace Rule

/-- The outcome of the first child, each judged on the entity that it is about, that does not have
the neutral verdict. It may be an error. -/
def firstDecisive (c : Combinator) (s : Scopes) (children : List Rule) : Except EvalError Bool :=
  match children.find? fun r => r.verdict s ≠ .ok c.neutral with
  | some r => r.verdict s
  | none => .ok c.neutral

section
variable {c : Combinator} {s : Scopes} {r r' : Rule} {rs before after : List Rule}

theorem firstDecisive_eq (c : Combinator) (s : Scopes) (rs : List Rule) :
    firstDecisive c s rs = firstOther (verdict s) c.neutral rs := by
  unfold firstDecisive firstOther
  cases rs.find? _ <;> rfl

theorem firstDecisive_cons (c : Combinator) (s : Scopes) (r : Rule) (rs : List Rule) :
    firstDecisive c s (r :: rs) =
      if r.verdict s = .ok c.neutral then firstDecisive c s rs else r.verdict s := by
  simp only [firstDecisive_eq, firstOther_cons]

theorem firstDecisive_singleton (c : Combinator) (s : Scopes) (r : Rule) :
    firstDecisive c s [r] = r.verdict s := by
  rw [firstDecisive_cons]
  split
  · next h => exact h.symm
  · rfl

theorem firstDecisive_append (c : Combinator) (s : Scopes) (rs rs' : List Rule) :
    firstDecisive c s (rs ++ rs') =
      if firstDecisive c s rs = .ok c.neutral then firstDecisive c s rs'
      else firstDecisive c s rs := by
  simp only [firstDecisive_eq, firstOther_append]

/-- The first child decides, or the rule is that of the others. -/
theorem evaluate_combine_cons (c : Combinator) (domain : EntityKind) (r : Rule) (rs : List Rule)
    (target : Properties) (s : Scopes) :
    evaluate target s (.combine c domain (r :: rs)) =
      if r.verdict s = .ok c.neutral then evaluate target s (.combine c domain rs)
      else r.verdict s := by
  cases c with
  | and =>
      rw [evaluate, evaluate, evaluateAll_cons, Combinator.neutral]
      cases r.verdict s with
      | error err => rfl
      | ok passed => cases passed <;> rfl
  | or =>
      rw [evaluate, evaluate, evaluateAny_cons, Combinator.neutral]
      cases r.verdict s with
      | error err => rfl
      | ok passed => cases passed <;> rfl

/-- Neither the properties handed to the rule nor the entity it is about have a say in this. -/
theorem evaluate_combine (c : Combinator) (domain : EntityKind) (children : List Rule)
    (target : Properties) (s : Scopes) :
    evaluate target s (.combine c domain children) = firstDecisive c s children := by
  induction children with
  | nil => cases c <;> rfl
  | cons r rs ih => rw [evaluate_combine_cons, firstDecisive_cons, ih]

/-! ### Nested rules -/

theorem firstDecisive_splice (c : Combinator) (domain : EntityKind) (s : Scopes)
    (before inner after : List Rule) :
    firstDecisive c s (before ++ .combine c domain inner :: after) =
      firstDecisive c s (before ++ inner ++ after) := by
  have nested : (Rule.combine c domain inner).verdict s = firstDecisive c s inner :=
    evaluate_combine c domain inner _ s
  have tail : firstDecisive c s (.combine c domain inner :: after) =
      firstDecisive c s (inner ++ after) := by
    rw [← List.singleton_append, firstDecisive_append, firstDecisive_append c s inner,
      firstDecisive_singleton, nested]
  rw [List.append_assoc, firstDecisive_append, firstDecisive_append c s before (inner ++ after),
    tail]

theorem firstDecisive_congr (h : r.verdict s = r'.verdict s) :
    firstDecisive c s (before ++ r :: after) = firstDecisive c s (before ++ r' :: after) := by
  rw [firstDecisive_append, firstDecisive_append c s before (r' :: after), firstDecisive_cons,
    firstDecisive_cons c s r', h]

/-- The rules are the same up to how children are grouped. The children of a nested rule take its
place in a rule of the same combinator, or some children in a row are put under a rule of their
own, which may be about either entity. This may happen at any place and any number of times. -/
inductive Regrouped : Rule → Rule → Prop
  | splice {c : Combinator} {domain nested : EntityKind} {before inner after : List Rule} :
      Regrouped (.combine c domain (before ++ .combine c nested inner :: after))
        (.combine c domain (before ++ inner ++ after))
  | group {c : Combinator} {domain nested : EntityKind} {before run after : List Rule} :
      run ≠ [] →
      Regrouped (.combine c domain (before ++ run ++ after))
        (.combine c domain (before ++ .combine c nested run :: after))
  | inside {c : Combinator} {domain : EntityKind} {before after : List Rule} {r r' : Rule} :
      Regrouped r r' →
      Regrouped (.combine c domain (before ++ r :: after)) (.combine c domain (before ++ r' :: after))
  | trans {r r' r'' : Rule} : Regrouped r r' → Regrouped r' r'' → Regrouped r r''

theorem Regrouped.domain_eq (h : Regrouped r r') : r.domain = r'.domain := by
  induction h with
  | splice => rfl
  | group _ => rfl
  | inside _ _ => rfl
  | trans _ _ first second => exact first.trans second

theorem Regrouped.evaluate_eq (h : Regrouped r r') (target : Properties) (s : Scopes) :
    r.evaluate target s = r'.evaluate target s := by
  induction h generalizing target with
  | splice =>
      rw [evaluate_combine, evaluate_combine]
      exact firstDecisive_splice _ _ s _ _ _
  | group _ =>
      rw [evaluate_combine, evaluate_combine]
      exact (firstDecisive_splice _ _ s _ _ _).symm
  | inside hchild ih =>
      rw [evaluate_combine, evaluate_combine]
      apply firstDecisive_congr
      -- The child is judged on the same entity as before.
      rw [verdict, verdict, hchild.domain_eq]
      exact ih _
  | trans _ _ first second => exact (first target).trans (second target)

end

/-- A combined rule has the outcome, be it a verdict or an error, of its first child that is not
neutral, and is neutral without one. The properties it is given and the entity it is about do not
matter, and neither does the way in which the children are grouped at any depth. -/
theorem evaluate_first_decisive (s : Scopes) :
    (∀ (c : Combinator) (domain : EntityKind) (children : List Rule) (target : Properties),
      evaluate target s (.combine c domain children) = firstDecisive c s children) ∧
    ∀ r r', Regrouped r r' → ∀ target, r.evaluate target s = r'.evaluate target s := by
  refine ⟨fun c domain children target => evaluate_combine c domain children target s, ?_⟩
  intro r r' regrouped target
  exact regrouped.evaluate_eq target s

end Rule
end Shortlist
