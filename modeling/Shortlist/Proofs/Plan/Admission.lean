import Shortlist.Proofs.Plan.Compilation
import Shortlist.Proofs.Rule.Children
/-! Admission by a plan is a conjunction of its rules: an error counts as a rejection, and it does
not matter which rule rejects first. So neither the order of the rules nor their distribution over
several plans decides anything about the candidates. -/
namespace Shortlist

/-! ### Exporting features -/

namespace Store

theorem setAbsent_setAbsent (s : Store) (key : String) (v w : Value) :
    (s.setAbsent key v).setAbsent key w = s.setAbsent key v := by
  have absent : (s.properties.insertAbsent key v).insertAbsent key w =
      s.properties.insertAbsent key v := by
    apply Std.ExtTreeMap.ext_getElem?
    intro other
    simp only [Properties.insertAbsent, Std.ExtTreeMap.getElem?_insertIfNew,
      Std.ExtTreeMap.mem_insertIfNew, Std.LawfulEqCmp.compare_eq_iff_eq, true_or, not_true_eq_false,
      and_false, if_false]
  simp only [setAbsent, absent]

end Store

namespace Item

theorem exported_exported (i : Item) : i.exported.exported = i.exported := by
  cases h : i.source? with
  | none => simp only [exported, h]
  | some source => simp only [exported, h, Store.setAbsent_setAbsent]

theorem features_exported (i : Item) : i.exported.features = i.features := by
  rw [features, exported_exported, features]

end Item

namespace Plan
open Descriptor

/-- Every rule gives a verdict, and it is positive. -/
def Passes (p : Plan) (s : Scopes) : Prop := ∀ r ∈ p.rules, r.verdict s = .ok true

variable {p q : Plan} {s : Scopes} {u : User}

theorem evaluate_eq_true : p.evaluate s = .ok true ↔ p.Passes s := by
  simp only [evaluate, bind_eq_ok, Passes, Plan.rules, List.forall_mem_append,
    ← Rule.evaluateAll_eq_true]
  constructor
  · rintro ⟨passed, huser, hitem⟩
    cases passed with
    | true => exact ⟨huser, hitem⟩
    | false => cases hitem
  · rintro ⟨huser, hitem⟩
    exact ⟨true, huser, hitem⟩

/-- Errors reject, like negative verdicts. -/
theorem accepts_iff : p.accepts s = true ↔ p.Passes s := by
  rw [← evaluate_eq_true, accepts]
  cases p.evaluate s with
  | ok admitted => simp
  | error err => simp

theorem isEmpty_iff : p.isEmpty = true ↔ p.rules = [] := by
  simp [isEmpty, Plan.rules]

theorem passes_of_isEmpty (h : p.isEmpty = true) (s : Scopes) : p.Passes s := by
  intro r hr
  rw [isEmpty_iff.mp h] at hr
  cases hr

theorem judge_fst (p : Plan) (u : User) (i : Item) :
    (p.judge u i).1 = true ↔ p.Passes ⟨u.properties, i.features⟩ := by
  unfold judge
  split
  · next h => simp [passes_of_isEmpty h]
  · exact accepts_iff

theorem judge_snd (p : Plan) (u : User) (i : Item) :
    (p.judge u i).2 = if p.isEmpty then i else i.exported := by
  unfold judge
  split <;> rfl

/-- Plans that pass on the same properties, and are empty together, judge alike. -/
theorem judge_congr (hpass : ∀ s, p.Passes s ↔ q.Passes s) (hempty : p.isEmpty = q.isEmpty)
    (i : Item) : p.judge u i = q.judge u i := by
  apply Prod.ext
  · rw [Bool.eq_iff_iff, judge_fst, judge_fst, hpass]
  · rw [judge_snd, judge_snd, hempty]

theorem retain_congr (hpass : ∀ s, p.Passes s ↔ q.Passes s) (hempty : p.isEmpty = q.isEmpty)
    (items : List Item) : p.retain u items = q.retain u items := by
  have hjudge : p.judge u = q.judge u := funext fun i => judge_congr hpass hempty i
  simp only [retain, hjudge]

/-! ### One plan after the other -/

theorem append_passes : (p.append q).Passes s ↔ p.Passes s ∧ q.Passes s := by
  simp only [Passes, Plan.rules, append, List.forall_mem_append]
  constructor
  · rintro ⟨⟨hpu, hqu⟩, hpi, hqi⟩
    exact ⟨⟨hpu, hpi⟩, hqu, hqi⟩
  · rintro ⟨⟨hpu, hpi⟩, hqu, hqi⟩
    exact ⟨⟨hpu, hqu⟩, hpi, hqi⟩

theorem append_isEmpty : (p.append q).isEmpty = (p.isEmpty && q.isEmpty) := by
  rw [Bool.eq_iff_iff, Bool.and_eq_true]
  simp only [isEmpty, append, Bool.and_eq_true, List.isEmpty_iff, List.append_eq_nil_iff]
  tauto

/-- What an earlier plan exports, a later one sees unchanged. -/
theorem judge_features (p : Plan) (u : User) (i : Item) :
    (p.judge u i).2.features = i.features := by
  rw [judge_snd]
  split
  · rfl
  · exact i.features_exported

theorem judge_append (i : Item) :
    (p.append q).judge u i =
      if (p.judge u i).1 then q.judge u (p.judge u i).2 else p.judge u i := by
  split
  · next hkept =>
      have hp := (judge_fst p u i).mp hkept
      apply Prod.ext
      · rw [Bool.eq_iff_iff, judge_fst, judge_fst, judge_features, append_passes]
        exact and_iff_right hp
      · simp only [judge_snd, append_isEmpty, Bool.and_eq_true]
        by_cases hpe : p.isEmpty = true
        · simp only [hpe, true_and, if_true]
        · by_cases hqe : q.isEmpty = true
          · simp [hpe, hqe]
          · simp [hpe, hqe, i.exported_exported]
  · next hkept =>
      have hp : ¬ p.Passes ⟨u.properties, i.features⟩ := fun h => hkept ((judge_fst p u i).mpr h)
      have hpe : ¬ p.isEmpty = true := fun h => hp (passes_of_isEmpty h _)
      apply Prod.ext
      · rw [Bool.eq_iff_iff, judge_fst, judge_fst, append_passes]
        exact ⟨fun h => h.1, fun h => absurd h hp⟩
      · simp [judge_snd, append_isEmpty, hpe]

/-- All candidates after two rounds: those that the first one kept as the second one leaves them,
the others as the first one left them. -/
def settled : List (Bool × Item) → List Item → List Item
  | [], _ => []
  | (false, i) :: decided, kept => i :: settled decided kept
  | (true, i) :: decided, kept => kept.headD i :: settled decided kept.tail

theorem retain_cons (p : Plan) (u : User) (i : Item) (items : List Item) :
    p.retain u (i :: items) =
      (if (p.judge u i).1 then (p.judge u i).2 :: (p.retain u items).1 else (p.retain u items).1,
        (p.judge u i).2 :: (p.retain u items).2) := by
  cases h : (p.judge u i).1 <;> simp [retain, h]

theorem retain_append (p q : Plan) (u : User) (items : List Item) :
    (p.append q).retain u items =
      ((q.retain u (p.retain u items).1).1,
        settled (items.map (p.judge u)) (q.retain u (p.retain u items).1).2) := by
  induction items with
  | nil => rfl
  | cons i items ih =>
      rw [retain_cons, retain_cons, ih, judge_append, List.map_cons]
      cases hp : p.judge u i with
      | mk kept j =>
          cases kept with
          | false => simp [settled]
          | true => simp [settled, retain_cons]

/-! ### Compiled plans -/

theorem isEmpty_of_compile {ds : List Descriptor} (hp : compile ds = .ok p) :
    p.isEmpty = true ↔ ds = [] := by
  rw [isEmpty_iff]
  constructor
  · intro hnil
    refine List.eq_nil_iff_forall_not_mem.mpr fun d hd => ?_
    obtain ⟨r, hr, -⟩ := rule_of_mem hp hd
    rw [hnil] at hr
    cases hr
  · rintro rfl
    refine List.eq_nil_iff_forall_not_mem.mpr fun r hr => ?_
    obtain ⟨d, hd, -⟩ := (mem_rules_of_compile hp r).mp hr
    cases hd

theorem perm_passes {cs cs' : List Descriptor} {p p' : Plan} (hperm : cs'.Perm cs)
    (hp : compile cs = .ok p) (hp' : compile cs' = .ok p') : p'.Passes s ↔ p.Passes s := by
  simp only [Passes, mem_rules_of_compile hp, mem_rules_of_compile hp', hperm.mem_iff]

/-- The descriptor, about the item, of a rule that passes if all of the given ones do. -/
structure Conjunction (d : Descriptor) (cs : List Descriptor) : Prop where
  operator : Operator.parse d.operator = .ok .combine
  combinator : Combinator.parse d.type = .ok .and
  domain : d.domain.getD .item = .item
  children : d.children = cs

theorem compile_conjunction {d : Descriptor} {cs : List Descriptor} (conj : Conjunction d cs)
    (hne : cs ≠ []) (hp : compile cs = .ok p) :
    ∃ single, compile [d] = .ok single ∧ single.isEmpty = false ∧
      ∀ s, single.Passes s ↔ p.Passes s := by
  obtain ⟨rules, hrules, rfl⟩ := map_eq_ok.mp hp
  have hd : d.compile .item = .ok (.combine .and .item rules) := by
    rw [compile_combine _ conj.operator conj.combinator, conj.children, conj.domain,
      if_neg fun h => hne (List.isEmpty_iff.mp h), hrules]
    rfl
  refine ⟨ofRules [.combine .and .item rules], ?_, rfl, fun s => ?_⟩
  · simp only [compile, compileAll, hd]
    rfl
  · calc (ofRules [.combine .and .item rules]).Passes s
        ↔ Rule.evaluateAll s rules = .ok true := by
          simp only [Passes, mem_rules_ofRules, List.forall_mem_singleton, Rule.verdict,
            Rule.evaluate]
      _ ↔ (ofRules rules).Passes s := by
          simp only [Rule.evaluateAll_eq_true, Passes, mem_rules_ofRules]

/-- Admission is a conjunction without an order. Candidates may be filtered by the rules of two
lists at once or in two rounds, by the rules in any order, or by one rule over all of them: the
same ones are kept, in the same order, and all are left with the same properties. -/
theorem retain_conjunction {cs ds : List Descriptor} {p q : Plan} (hp : compile cs = .ok p)
    (hq : compile ds = .ok q) (u : User) (items : List Item) :
    (∃ both, compile (cs ++ ds) = .ok both ∧
      (both.retain u items).1 = (q.retain u (p.retain u items).1).1 ∧
      (both.retain u items).2 =
        settled (items.map (p.judge u)) (q.retain u (p.retain u items).1).2) ∧
    (∀ cs', cs'.Perm cs → ∃ p', compile cs' = .ok p' ∧ p'.retain u items = p.retain u items) ∧
    (cs ≠ [] → ∀ d, Conjunction d cs →
      ∃ single, compile [d] = .ok single ∧ single.retain u items = p.retain u items) := by
  refine ⟨⟨p.append q, compile_append hp hq, ?_, ?_⟩, fun cs' hperm => ?_, fun hne d conj => ?_⟩
  · rw [retain_append]
  · rw [retain_append]
  · obtain ⟨p', hp'⟩ := compile_ok_iff.mpr fun d hd =>
      compile_ok_iff.mp ⟨p, hp⟩ d (hperm.mem_iff.mp hd)
    refine ⟨p', hp', retain_congr (fun s => perm_passes hperm hp hp') ?_ items⟩
    rw [Bool.eq_iff_iff, isEmpty_of_compile hp, isEmpty_of_compile hp']
    constructor
    · rintro rfl
      exact List.nil_perm.mp hperm
    · rintro rfl
      exact List.perm_nil.mp hperm
  · obtain ⟨single, hsingle, hempty, hpass⟩ := compile_conjunction conj hne hp
    refine ⟨single, hsingle, retain_congr hpass ?_ items⟩
    rw [hempty, eq_comm, Bool.eq_false_iff, ne_eq, isEmpty_of_compile hp]
    exact hne

def affordable : List Descriptor :=
  [.leaf .item "price" "less" "int" (.string "user.budget"),
    .leaf .user "age" "greater" "int" (.int 18)]

def affordablePlan : Plan where
  userRules :=
    [.compare .atLeast
      { property := "age", domain := .user, type := .int, operandType := .int
        operand := .literal (.int 18) }]
  itemRules :=
    [.compare .atMost
      { property := "price", domain := .item, type := .int, operandType := .int
        operand := .reference .user "budget" }]

def unlisted : List Descriptor := [.presence .item "banned" "is_null"]

def unlistedPlan : Plan where
  itemRules := [.presence false "banned" .item]

def visitor : User := .new "u1" (.ofEntries [("age", .int 30), ("budget", .string "20")])

/-- The price of the second one cannot be read, and the third one is proposed with a score. -/
def candidates : List Item :=
  [Item.withProperties { id := "i1" } (.ofEntries [("price", .int 12)]),
    Item.withProperties { id := "i2" } (.ofEntries [("price", .string "cheap")]),
    (Item.fromRecall "i3" "banned" 1).withProperties (.ofEntries [("price", .int 7)])]

theorem retain_affordable_unlisted :
    compile affordable = .ok affordablePlan ∧ compile unlisted = .ok unlistedPlan ∧
      (∃ both, compile (affordable ++ unlisted) = .ok both ∧
        (both.retain visitor candidates).1 =
          (unlistedPlan.retain visitor (affordablePlan.retain visitor candidates).1).1) ∧
      (∃ turned, compile affordable.reverse = .ok turned ∧
        turned.retain visitor candidates = affordablePlan.retain visitor candidates) ∧
      ∃ single, compile [.combine .item " AND" affordable] = .ok single ∧
        single.retain visitor candidates = affordablePlan.retain visitor candidates := by
  have hp : compile affordable = .ok affordablePlan := by rfl
  have hq : compile unlisted = .ok unlistedPlan := by rfl
  have conj : Conjunction (.combine .item " AND" affordable) affordable :=
    { operator := by rfl, combinator := by rfl, domain := rfl, children := rfl }
  obtain ⟨⟨both, hboth, hkept, -⟩, perm, single⟩ := retain_conjunction hp hq visitor candidates
  exact ⟨hp, hq, ⟨both, hboth, hkept⟩, perm _ (List.reverse_perm _),
    single (List.cons_ne_nil _ _) _ conj⟩

end Plan
end Shortlist
