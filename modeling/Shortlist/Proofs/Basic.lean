import Mathlib.Data.List.Forall2
import Std.Data.ExtTreeMap
/-! Reading computations that can fail back from their results, lists related element by element,
and maps filled from lists. -/
namespace Shortlist

variable {α β ε δ : Type}

theorem ok_bind {a : α} {f : α → Except ε β} : (Except.ok a >>= f) = f a := rfl

theorem bind_eq_ok {x : Except ε α} {f : α → Except ε β} {b : β} :
    (x >>= f) = .ok b ↔ ∃ a, x = .ok a ∧ f a = .ok b := by
  cases x with
  | error e => simp [bind, Except.bind]
  | ok a => simp [bind, Except.bind]

theorem bind_eq_error {x : Except ε α} {f : α → Except ε β} {e : ε} :
    (x >>= f) = .error e ↔ x = .error e ∨ ∃ a, x = .ok a ∧ f a = .error e := by
  cases x with
  | error e => simp [bind, Except.bind]
  | ok a => simp [bind, Except.bind]

theorem map_eq_ok {x : Except ε α} {f : α → β} {b : β} :
    x.map f = .ok b ↔ ∃ a, x = .ok a ∧ f a = b := by
  cases x with
  | error e => simp [Except.map]
  | ok a => simp [Except.map]

theorem map_eq_error {x : Except ε α} {f : α → β} {e : ε} :
    x.map f = .error e ↔ x = .error e := by
  cases x with
  | error e => simp [Except.map]
  | ok a => simp [Except.map]

theorem exists_map_ok_iff {x : Except ε α} {f : α → β} :
    (∃ b, x.map f = .ok b) ↔ ∃ a, x = .ok a := by
  cases x with
  | error e => simp [Except.map]
  | ok a => simp [Except.map]

theorem exists_error_iff {x : Except ε α} :
    (∃ e, x = .error e) ↔ ¬ ∃ a, x = .ok a := by
  cases x <;> simp

theorem mapError_eq_ok {x : Except ε α} {f : ε → δ} {a : α} :
    x.mapError f = .ok a ↔ x = .ok a := by
  cases x with
  | error e => simp [Except.mapError]
  | ok b => simp [Except.mapError]

theorem mapError_eq_error {x : Except ε α} {f : ε → δ} {e : δ} :
    x.mapError f = .error e ↔ ∃ cause, x = .error cause ∧ f cause = e := by
  cases x with
  | error e => simp [Except.mapError]
  | ok a => simp [Except.mapError]

theorem mapError_map (x : Except ε α) (f : α → β) (g : ε → δ) :
    (x.map f).mapError g = (x.mapError g).map f := by
  cases x <;> rfl

theorem map_not_map_not (x : Except ε Bool) : (x.map (!·)).map (!·) = x := by
  cases x with
  | error e => rfl
  | ok t => cases t <;> rfl

theorem map_injective {f : α → β} (hf : Function.Injective f) :
    Function.Injective (Except.map f : Except ε α → Except ε β) := by
  intro x y h
  cases x with
  | error e => cases y with
      | error e' => simpa [Except.map] using h
      | ok b => simp [Except.map] at h
  | ok a => cases y with
      | error e' => simp [Except.map] at h
      | ok b =>
          have hab : f a = f b := by simpa [Except.map] using h
          rw [hf hab]

theorem exists_mem_of_forall₂ {R : α → β → Prop} {as : List α} {bs : List β}
    (h : List.Forall₂ R as bs) : ∀ b ∈ bs, ∃ a ∈ as, R a b := by
  induction h with
  | nil => simp
  | @cons a b as bs hab _ ih =>
      intro b' hb'
      cases List.mem_cons.mp hb' with
      | inl heq => exact ⟨a, by simp, heq ▸ hab⟩
      | inr htail =>
          obtain ⟨a', ha', hR⟩ := ih b' htail
          exact ⟨a', by simp [ha'], hR⟩

theorem exists_mem_of_mapM {f : α → Option β} {as : List α} {bs : List β}
    (h : as.mapM f = some bs) : ∀ b ∈ bs, ∃ a ∈ as, f a = some b := by
  induction as generalizing bs with
  | nil =>
      cases h
      exact List.forall_mem_nil _
  | cons a as ih =>
      simp only [List.mapM_cons, Option.bind_eq_bind, Option.bind_eq_some_iff] at h
      obtain ⟨b, hb, bs', hbs, h⟩ := h
      cases h
      refine List.forall_mem_cons.mpr ⟨⟨a, List.mem_cons_self, hb⟩, fun b' hb' => ?_⟩
      obtain ⟨a', ha', hread⟩ := ih hbs b' hb'
      exact ⟨a', List.mem_cons_of_mem a ha', hread⟩

theorem isEmpty_of_forall₂ {R : α → β → Prop} {as : List α} {bs : List β}
    (h : List.Forall₂ R as bs) : bs.isEmpty = as.isEmpty := by
  cases h <;> rfl

/-- A traversal that stops at the first failure succeeds exactly if every element does. -/
theorem traverse_eq_ok {f : α → Except ε β} {g : List α → Except ε (List β)}
    (hnil : g [] = .ok [])
    (hcons : ∀ a as, g (a :: as) = do
      let b ← f a
      let bs ← g as
      return b :: bs)
    {as : List α} {bs : List β} :
    g as = .ok bs ↔ List.Forall₂ (fun a b => f a = .ok b) as bs := by
  induction as generalizing bs with
  | nil =>
      simp only [hnil, Except.ok.injEq, List.forall₂_nil_left_iff]
      exact eq_comm
  | cons a as ih =>
      simp only [hcons, bind_eq_ok, List.forall₂_cons_left_iff, ih]
      constructor
      · rintro ⟨b, hb, bs', hbs, h⟩
        exact ⟨b, bs', hb, hbs, (Except.ok.inj h).symm⟩
      · rintro ⟨b, bs', hb, hbs, rfl⟩
        exact ⟨b, hb, bs', hbs, rfl⟩

/-! ### Searches -/

section
variable [DecidableEq ε]

/-- What a search says that goes on as long as the outcome is the given one. -/
def firstOther (f : α → Except ε Bool) (usual : Bool) (as : List α) : Except ε Bool :=
  match as.find? fun a => f a ≠ .ok usual with
  | some a => f a
  | none => .ok usual

variable (f : α → Except ε Bool) (usual : Bool)

theorem firstOther_cons (a : α) (as : List α) :
    firstOther f usual (a :: as) =
      if f a = .ok usual then firstOther f usual as else f a := by
  by_cases h : f a = .ok usual
  · simp [firstOther, h]
  · simp [firstOther, h]

theorem firstOther_append (as bs : List α) :
    firstOther f usual (as ++ bs) =
      if firstOther f usual as = .ok usual then firstOther f usual bs
      else firstOther f usual as := by
  induction as with
  | nil => simp [firstOther]
  | cons a as ih =>
      rw [List.cons_append, firstOther_cons, firstOther_cons, ih]
      by_cases h : f a = .ok usual
      · simp only [if_pos h]
      · simp only [if_neg h]

theorem firstOther_of_ok {f : α → Except ε Bool} {as : List α} (h : ∀ a ∈ as, ∃ t, f a = .ok t) :
    firstOther f false as = .ok (as.any fun a => f a = .ok true) := by
  induction as with
  | nil => rfl
  | cons a as ih =>
      obtain ⟨⟨t, ht⟩, hrest⟩ := List.forall_mem_cons.mp h
      rw [firstOther_cons, ih hrest, List.any_cons, ht]
      cases t <;> simp

end

/-! ### Lists gone through element by element -/

theorem eq_map_of_cons {f : α → β} {g : List α → List β} (hnil : g [] = [])
    (hcons : ∀ a as, g (a :: as) = f a :: g as) (as : List α) : g as = as.map f := by
  induction as with
  | nil => exact hnil
  | cons a as ih => rw [hcons, ih, List.map_cons]

/-! ### Maps filled from lists -/

section
variable {κ γ : Type} [BEq κ] [LawfulBEq κ]

theorem mem_of_lookup_reverse {es : List (κ × γ)} {k : κ} {v : γ}
    (h : es.reverse.lookup k = some v) : (k, v) ∈ es := by
  obtain ⟨before, after, hsplit, -⟩ := List.lookup_eq_some_iff.mp h
  exact List.mem_reverse.mp (hsplit ▸ List.mem_append_right before List.mem_cons_self)

/-- Of several entries with one key the last one counts. -/
theorem getElem?_foldl_insert [Ord κ] [Std.TransOrd κ] [Std.LawfulEqOrd κ] (es : List (κ × γ))
    (m : Std.ExtTreeMap κ γ) (k : κ) :
    (es.foldl (fun m e => m.insert e.1 e.2) m)[k]? = (es.reverse.lookup k).or m[k]? := by
  induction es generalizing m with
  | nil => rfl
  | cons e es ih =>
      obtain ⟨key, v⟩ := e
      rw [List.foldl_cons, ih, List.reverse_cons, List.lookup_append, Option.or_assoc,
        Std.ExtTreeMap.getElem?_insert]
      by_cases hk : key = k
      · subst hk
        simp
      · have hne : (k == key) = false := by simpa using Ne.symm hk
        simp [List.lookup_cons, hk, hne]

end

end Shortlist
