import Shortlist.Proofs.Rule.Grammar
/-! Compiling whole forests. It succeeds exactly on well-formed descriptors, and otherwise reports
the first fault in preorder. Fields that an operator does not use make no difference. -/
namespace Shortlist
namespace Descriptor

/-- The first descriptor of a list that does not meet its own requirements, with its fault. -/
structure FirstFault (ds : List Descriptor) (d : Descriptor) (e : CompileError) : Prop where
  first : ∃ before after, ds = before ++ d :: after ∧ ∀ b ∈ before, b.Sound
  fault : d.Fault e

section forest
variable {ds es : List Descriptor} {d : Descriptor} {e : CompileError}

theorem FirstFault.append_right (h : FirstFault ds d e) (es : List Descriptor) :
    FirstFault (ds ++ es) d e := by
  obtain ⟨before, after, rfl, hbefore⟩ := h.first
  exact ⟨⟨before, after ++ es, by simp, hbefore⟩, h.fault⟩

theorem FirstFault.append_left (h : FirstFault ds d e) (hes : ∀ b ∈ es, b.Sound) :
    FirstFault (es ++ ds) d e := by
  obtain ⟨before, after, rfl, hbefore⟩ := h.first
  refine ⟨⟨es ++ before, after, by simp, ?_⟩, h.fault⟩
  exact fun b hb => (List.mem_append.mp hb).elim (hes b) (hbefore b)

theorem FirstFault.cons (h : FirstFault ds d e) {b : Descriptor} (hb : b.Sound) :
    FirstFault (b :: ds) d e :=
  FirstFault.append_left h (List.forall_mem_singleton.mpr hb)

theorem FirstFault.mem (h : FirstFault ds d e) : d ∈ ds := by
  obtain ⟨before, after, rfl, -⟩ := h.first
  simp

/-- A list has one first fault at most, and a descriptor reports one fault at most. -/
theorem FirstFault.unique {d' : Descriptor} {e' : CompileError} (h : FirstFault ds d e)
    (h' : FirstFault ds d' e') : e = e' := by
  classical
  have found : ∀ {d e}, FirstFault ds d e → ds.find? (fun b => ¬ b.Sound) = some d := by
    intro d e h
    obtain ⟨before, after, hds, hbefore⟩ := h.first
    refine List.find?_eq_some_iff_append.mpr ⟨by simpa using h.fault.not_sound, before, after, hds, ?_⟩
    simpa using hbefore
  obtain rfl : d = d' := Option.some.inj ((found h).symm.trans (found h'))
  exact Except.error.inj
    ((compile_of_fault h.fault .item).symm.trans (compile_of_fault h'.fault .item))

/-- How compiling ends, told from the descriptors in preorder: all of them meet their own
requirements, or the first that does not decides the error. -/
inductive Ends {α : Type} (ds : List Descriptor) (result : Except CompileError α) : Prop
  | sound (a : α) : result = .ok a → (∀ d ∈ ds, d.Sound) → Ends ds result
  | fault {d : Descriptor} {e : CompileError} : result = .error e → FirstFault ds d e → Ends ds result

theorem Ends.error_iff {α : Type} {result : Except CompileError α} (h : Ends ds result) :
    result = .error e ↔ ∃ d, FirstFault ds d e := by
  cases h with
  | sound a hok hsound =>
      constructor
      · intro herr
        cases hok.symm.trans herr
      · rintro ⟨d, hfault⟩
        exact absurd (hsound d hfault.mem) hfault.fault.not_sound
  | fault herr hfault =>
      constructor
      · intro herr'
        cases herr.symm.trans herr'
        exact ⟨_, hfault⟩
      · rintro ⟨d, hfault'⟩
        rw [herr, hfault.unique hfault']

theorem Ends.ok_iff {α : Type} {result : Except CompileError α} (h : Ends ds result) :
    (∃ a, result = .ok a) ↔ ∀ d ∈ ds, d.Sound := by
  cases h with
  | sound a hok hsound => exact ⟨fun _ => hsound, fun _ => ⟨a, hok⟩⟩
  | fault herr hfault =>
      constructor
      · rintro ⟨a, hok⟩
        cases hok.symm.trans herr
      · intro hsound
        exact absurd (hsound _ hfault.mem) hfault.fault.not_sound

theorem Ends.map {α β : Type} {result : Except CompileError α} (h : Ends ds result) (f : α → β) :
    Ends ds (result.map f) := by
  cases h with
  | sound a hok hsound => exact .sound (f a) (by rw [hok]; rfl) hsound
  | fault herr hfault => exact .fault (by rw [herr]; rfl) hfault

theorem compileAll_ends (ih : ∀ d ∈ ds, ∀ inherited, Ends d.preorder (d.compile inherited))
    (inherited : EntityKind) : Ends (preorderAll ds) (compileAll inherited ds) := by
  induction ds with
  | nil => exact .sound [] rfl (by simp [preorderAll])
  | cons d ds ihds =>
      have htail := ihds fun d' hd' => ih d' (List.mem_cons_of_mem d hd')
      rw [preorderAll, compileAll]
      cases ih d List.mem_cons_self inherited with
      | fault herr hfault => exact .fault (by rw [herr]; rfl) (hfault.append_right _)
      | sound rule hrule hsound =>
          cases htail with
          | fault herr hfault => exact .fault (by rw [hrule, herr]; rfl) (hfault.append_left hsound)
          | sound rules hrules htailSound =>
              refine .sound (rule :: rules) (by rw [hrule, hrules]; rfl) fun b hb => ?_
              exact (List.mem_append.mp hb).elim (hsound b) (htailSound b)

end forest

theorem mem_children_of_mem_parts {d part : Descriptor} (h : part ∈ d.parts) :
    part ∈ d.children := by
  simp only [parts] at h
  split at h
  · exact h
  · cases h

theorem compile_ends (d : Descriptor) :
    ∀ inherited, Ends d.preorder (d.compile inherited) := by
  induction d using induction_children with
  | step d ih =>
      intro inherited
      rw [preorder_eq]
      cases sound_or_fault d with
      | inr hfault =>
          obtain ⟨e, fault⟩ := hfault
          have first : FirstFault (d :: preorderAll d.parts) d e := ⟨⟨[], _, rfl, by simp⟩, fault⟩
          exact .fault (compile_of_fault fault inherited) first
      | inl sound =>
          obtain ⟨build, hcompile⟩ := compile_of_sound sound inherited
          have hparts := compileAll_ends fun part hpart => ih part (mem_children_of_mem_parts hpart)
          rw [hcompile]
          cases (hparts (d.domain.getD inherited)).map build with
          | fault herr hfault => exact .fault herr (hfault.cons sound)
          | sound rule hrule hsound =>
              exact .sound rule hrule (List.forall_mem_cons.mpr ⟨sound, hsound⟩)

theorem mem_preorderAll {ds : List Descriptor} {b : Descriptor} :
    b ∈ preorderAll ds ↔ ∃ d ∈ ds, b ∈ d.preorder := by
  induction ds with
  | nil => simp [preorderAll]
  | cons d ds ih => simp [preorderAll, ih]

theorem wellFormed_iff (d : Descriptor) : d.WellFormed ↔ ∀ b ∈ d.preorder, b.Sound := by
  induction d using induction_children with
  | step d ih =>
      rw [preorder_eq, List.forall_mem_cons]
      constructor
      · rintro ⟨sound, hparts⟩
        refine ⟨sound, fun b hb => ?_⟩
        obtain ⟨part, hpart, hb⟩ := mem_preorderAll.mp hb
        exact (ih part (mem_children_of_mem_parts hpart)).mp (hparts part hpart) b hb
      · rintro ⟨sound, hall⟩
        refine .intro sound fun part hpart => ?_
        refine (ih part (mem_children_of_mem_parts hpart)).mpr fun b hb => hall b ?_
        exact mem_preorderAll.mpr ⟨part, hpart, hb⟩

theorem forall_wellFormed_iff (ds : List Descriptor) :
    (∀ d ∈ ds, d.WellFormed) ↔ ∀ b ∈ preorderAll ds, b.Sound := by
  simp only [wellFormed_iff, mem_preorderAll]
  constructor
  · rintro h b ⟨d, hd, hb⟩
    exact h d hd b hb
  · exact fun h d hd b hb => h b ⟨d, hd, hb⟩

/-! ### Fields that are not used -/

/-- Descriptors that differ at most in fields that their operators do not use. The name of a rule
over rules is used only to report that it has none. -/
inductive Alike : Descriptor → Descriptor → Prop
  | unknown {d d' : Descriptor} :
      d.operator? = none → d'.operator = d.operator → d'.name = d.name → Alike d d'
  | combine {d d' : Descriptor} :
      d.operator? = some .combine → d'.operator = d.operator → d'.domain = d.domain →
      d'.type = d.type → (d.children = [] → d'.name = d.name) →
      List.Forall₂ Alike d.children d'.children → Alike d d'
  | presence {d d' : Descriptor} {wanted : Bool} :
      d.operator? = some (.presence wanted) → d'.operator = d.operator →
      d'.domain = d.domain → d'.name = d.name → Alike d d'
  | compare {d d' : Descriptor} {c : Comparison} :
      d.operator? = some (.compare c) → d'.operator = d.operator → d'.domain = d.domain →
      d'.name = d.name → d'.type = d.type → d'.value = d.value → Alike d d'

theorem compileAll_congr {ds es : List Descriptor} {R : Descriptor → Descriptor → Prop}
    (h : List.Forall₂ R ds es)
    (ih : ∀ d ∈ ds, ∀ d', R d d' → ∀ inherited, d'.compile inherited = d.compile inherited)
    (inherited : EntityKind) : compileAll inherited es = compileAll inherited ds := by
  induction h with
  | nil => rfl
  | cons hd _ ihtail =>
      have htail := ihtail fun d hd => ih d (List.mem_cons_of_mem _ hd)
      simp only [compileAll, ih _ List.mem_cons_self _ hd inherited, htail]

theorem compile_alike (d : Descriptor) :
    ∀ {d' : Descriptor}, Alike d d' → ∀ inherited, d'.compile inherited = d.compile inherited := by
  induction d using induction_children with
  | step d ih =>
      intro d' alike inherited
      cases alike with
      | unknown hop hoperator hname =>
          have hparse := parse_operator_unknown hop
          rw [compile_unknown inherited hparse, compile_unknown inherited (hoperator ▸ hparse),
            hname, hoperator]
      | combine hop hoperator hdomain htype hname hchildren =>
          have hparse := parse_operator hop
          have hall := compileAll_congr hchildren fun child hchild _ => ih child hchild
          cases hc : Combinator.parse d.type with
          | error word =>
              rw [compile_combine_unknown inherited hparse hc,
                compile_combine_unknown inherited (hoperator ▸ hparse) (htype ▸ hc)]
          | ok c =>
              rw [compile_combine inherited hparse hc,
                compile_combine inherited (hoperator ▸ hparse) (htype ▸ hc), hdomain, hall,
                isEmpty_of_forall₂ hchildren]
              split
              · next hnil => rw [hname (List.isEmpty_iff.mp hnil)]
              · rfl
      | presence hop hoperator hdomain hname =>
          have hparse := parse_operator hop
          rw [compile_presence inherited hparse, compile_presence inherited (hoperator ▸ hparse),
            hdomain, requiredName, requiredName, hname, hoperator]
      | compare hop hoperator hdomain hname htype hvalue =>
          have hparse := parse_operator hop
          rw [compile_compare inherited hparse, compile_compare inherited (hoperator ▸ hparse)]
          simp only [compileLeaf, requiredName, requiredValue, hoperator, hdomain, hname, htype, hvalue]

end Descriptor
end Shortlist
