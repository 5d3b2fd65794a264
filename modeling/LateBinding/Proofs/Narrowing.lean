import LateBinding.Proofs.Anticipation
import LateBinding.Cli.Subject

/-!
# Narrowing: fewer rules and more demands

A method is looked up by a name, under binding rules, and with exact parameter types if wanted.  A
lookup under fewer rules, or with a signature in addition, chooses among some of the same
candidates, and so finds the same method or none.

* `BindingRules.le_iff` — when one set of rules is part of another, rule by rule;
* `BindingRules.admits_mono`, `BindingRules.nameMatches_mono` — more rules admit more methods and
  accept more names;
* `TypeDef.sublist_methodCandidates` — more rules leave more candidates;
* `TypeDef.findMethod_signed` — a signature is a demand on what is found without one;
* `filter_eq_singleton_iff` — an element is all that a filter keeps just when no other position
  passes;
* `rules_narrow_lookup` — all of it together.
-/

namespace LateBinding

namespace BindingRules

/-! ### Sets of rules -/

/-- One set of rules is part of another. -/
instance : LE BindingRules := ⟨fun r r' => r.union r' = r'⟩

instance (r r' : BindingRules) : Decidable (r ≤ r') :=
  inferInstanceAs (Decidable (r.union r' = r'))

theorem le_iff {r r' : BindingRules} :
    r ≤ r' ↔ (r.exposed → r'.exposed) ∧ (r.hidden → r'.hidden) ∧ (r.instances → r'.instances) ∧
      (r.ignoreCase → r'.ignoreCase) := by
  have hunion : r ≤ r' ↔ r.union r' = r' := Iff.rfl
  obtain ⟨exposed, hidden, instances, ignoreCase⟩ := r
  obtain ⟨exposed', hidden', instances', ignoreCase'⟩ := r'
  simp only [hunion, union, mk.injEq, Bool.or_eq_right_iff_imp]

variable {r r' : BindingRules} (h : r ≤ r')

include h

/-- **More rules admit more members.** -/
theorem admits_mono {visibility : Visibility} (ha : r.admits visibility) :
    r'.admits visibility := by
  obtain ⟨hexposed, hhidden, hinstances, -⟩ := le_iff.mp h
  obtain ⟨hi, hv⟩ := Bool.and_eq_true_iff.mp ha
  refine Bool.and_eq_true_iff.mpr ⟨hinstances hi, ?_⟩
  cases visibility with
  | exposed => exact hexposed hv
  | hidden => exact hhidden hv

/-- **And accept more names.**  A name that matches exactly matches regardless of case. -/
theorem nameMatches_mono {member requested : String} (hm : r.nameMatches member requested) :
    r'.nameMatches member requested := by
  obtain ⟨-, -, -, hcase⟩ := le_iff.mp h
  rw [nameMatches] at hm ⊢
  by_cases hr : r.ignoreCase
  · rw [if_pos hr] at hm
    rw [if_pos (hcase hr)]
    exact hm
  · rw [if_neg hr, decide_eq_true_iff] at hm
    rw [hm]
    split <;> exact decide_eq_true rfl

omit h

/-- Every name is its own. -/
theorem nameMatches_self (r : BindingRules) (name : String) : r.nameMatches name name := by
  rw [nameMatches]
  split <;> exact decide_eq_true rfl

end BindingRules

/-! ### Narrower queries -/

/-- The same request under other rules. -/
def MethodQuery.under (q : MethodQuery) (rules : BindingRules) : MethodQuery := { q with rules }

theorem MethodQuery.selects_mono {declaring : TypeTag} {m : Method declaring} (q : MethodQuery)
    {r r' : BindingRules} (h : r ≤ r') (hm : (q.under r).selects m) : (q.under r').selects m := by
  obtain ⟨hreaches, hsignature⟩ := Bool.and_eq_true_iff.mp hm
  obtain ⟨hname, hadmits⟩ := Bool.and_eq_true_iff.mp hreaches
  exact Bool.and_eq_true_iff.mpr ⟨Bool.and_eq_true_iff.mpr
    ⟨BindingRules.nameMatches_mono h hname, BindingRules.admits_mono h hadmits⟩, hsignature⟩

namespace TypeDef

variable (t : TypeDef)

/-- **More rules leave more candidates**, and those of fewer rules in the same order. -/
theorem sublist_methodCandidates (q : MethodQuery) {r r' : BindingRules} (h : r ≤ r') :
    (t.methodCandidates (q.under r)).Sublist (t.methodCandidates (q.under r')) :=
  List.monotone_filter_right _ fun _ hm => q.selects_mono h hm

/-- With a signature those of the candidates remain that have it. -/
theorem methodCandidates_signed (name : String) (rules : BindingRules) (signature : List Formal) :
    t.methodCandidates { name, rules, signature := some signature } =
      (t.methodCandidates { name, rules }).filter fun m => m.formals = signature := by
  rw [methodCandidates, methodCandidates, List.filter_filter]
  refine List.filter_congr fun m _ => ?_
  simp only [MethodQuery.selects, Bool.and_true]
  exact Bool.and_comm _ _

/-- **A signature is a demand on what is found without one.** -/
theorem findMethod_signed {name : String} {rules : BindingRules} {m : Method t.type}
    (h : t.findMethod { name, rules } = .ok m) (signature : List Formal) :
    t.findMethod { name, rules, signature := some signature } =
      if signature = m.formals then .ok m else .error (.memberNotFound t.name name) := by
  have hone : t.methodCandidates { name, rules } = [m] := t.single_eq_ok_iff.mp h
  rw [findMethod, methodCandidates_signed, hone]
  by_cases hsignature : signature = m.formals
  · have hkept : [m].filter (fun m => m.formals = signature) = [m] :=
      List.filter_cons_of_pos (decide_eq_true hsignature.symm)
    rw [if_pos hsignature, hkept]
    rfl
  · have hdropped : [m].filter (fun m => m.formals = signature) = [] :=
      List.filter_cons_of_neg (by rw [decide_eq_true_iff]; exact Ne.symm hsignature)
    rw [if_neg hsignature, hdropped]
    rfl

end TypeDef

/-! ### The one position that passes -/

/-- An element that passes a filter is all that the filter keeps just when no other position
passes. -/
theorem filter_eq_singleton_iff {α : Type} {p : α → Bool} {x : α} (hx : p x) {l : List α} :
    ∀ {k : Nat}, l[k]? = some x →
      (l.filter p = [x] ↔ ∀ (j : Nat) (y : α), l[j]? = some y → p y → j = k) := by
  induction l with
  | nil => intro k hk; cases hk
  | cons a l ih =>
    intro k hk
    cases k with
    | zero =>
      cases hk
      rw [List.filter_cons_of_pos hx, List.cons_inj_right, List.filter_eq_nil_iff]
      constructor
      · intro hnone j y hj hy
        cases j with
        | zero => rfl
        | succ j => exact absurd hy (hnone y (List.mem_of_getElem? hj))
      · intro honly y hy hpass
        obtain ⟨j, hj⟩ := List.mem_iff_getElem?.mp hy
        exact absurd (honly (j + 1) y hj hpass) (Nat.succ_ne_zero j)
    | succ k =>
      have hmem : x ∈ l.filter p := List.mem_filter.mpr ⟨List.mem_of_getElem? hk, hx⟩
      by_cases ha : p a
      · -- two positions pass, the first and the one of `x`
        rw [List.filter_cons_of_pos ha]
        refine iff_of_false ?_ fun honly => absurd (honly 0 a rfl ha) (Nat.succ_ne_zero k).symm
        intro hone
        rw [(List.cons.inj hone).2] at hmem
        cases hmem
      · rw [List.filter_cons_of_neg ha, ih hk]
        constructor
        · intro honly j y hj hy
          cases j with
          | zero => cases hj; exact absurd hy ha
          | succ j => exact congrArg Nat.succ (honly j y hj hy)
        · intro honly j y hj hy
          exact Nat.succ.inj (honly (j + 1) y hj hy)

/-- A method is found by its own name and parameters just when no other position of the member list
answers to them. -/
theorem TypeDef.findMethod_own_iff (t : TypeDef) {rules : BindingRules} {k : Nat}
    {m : Method t.type} (hk : t.methods[k]? = some m) (hm : rules.admits m.visibility) :
    t.findMethod { name := m.name, rules, signature := some m.formals } = .ok m ↔
      ∀ (j : Nat) (m' : Method t.type), t.methods[j]? = some m' → rules.admits m'.visibility →
        rules.nameMatches m'.name m.name → m'.formals = m.formals → j = k := by
  have hselects : ∀ m' : Method t.type,
      MethodQuery.selects { name := m.name, rules, signature := some m.formals } m' ↔
        rules.nameMatches m'.name m.name ∧ rules.admits m'.visibility ∧
          m'.formals = m.formals := by
    intro m'
    simp only [MethodQuery.selects, MethodQuery.reaches, Bool.and_eq_true, decide_eq_true_iff,
      and_assoc]
  have hown := (hselects m).mpr ⟨rules.nameMatches_self m.name, hm, rfl⟩
  rw [findMethod, t.single_eq_ok_iff, methodCandidates, filter_eq_singleton_iff hown hk]
  refine forall_congr' fun j => forall_congr' fun m' => forall_congr' fun _ => ?_
  rw [hselects m']
  exact ⟨fun h ha hn hf => h ⟨hn, ha, hf⟩, fun h ⟨hn, ha, hf⟩ => h ha hn hf⟩

/-- **Fewer rules and a signature narrow a lookup, and never redirect it.**  The candidates under a
part of the rules are candidates under all of them: what is found under all is found under the part
or nothing is, and what is ambiguous under the part is ambiguous under all, with no fewer
candidates.  A method found without a signature is found with its own one, and with any other
nothing is.  And an admitted method is found by its own name and parameters just when no other
admitted method answers to that name with the same parameters. -/
theorem rules_narrow_lookup (t : TypeDef) :
    (∀ (q : MethodQuery) (r r' : BindingRules), r ≤ r' →
      (t.methodCandidates (q.under r)).Sublist (t.methodCandidates (q.under r')) ∧
      (∀ m, t.findMethod (q.under r') = .ok m →
        t.findMethod (q.under r) = .ok m ∨
        t.findMethod (q.under r) = .error (.memberNotFound t.name q.name)) ∧
      (∀ n, t.findMethod (q.under r) = .error (.ambiguousMatch t.name q.name n) →
        ∃ n', n ≤ n' ∧
          t.findMethod (q.under r') = .error (.ambiguousMatch t.name q.name n'))) ∧
    (∀ name rules m, t.findMethod { name, rules } = .ok m → ∀ signature,
      t.findMethod { name, rules, signature := some signature } =
        if signature = m.formals then .ok m else .error (.memberNotFound t.name name)) ∧
    (∀ (rules : BindingRules) (k : Nat) (m : Method t.type), t.methods[k]? = some m →
      rules.admits m.visibility →
      (t.findMethod { name := m.name, rules, signature := some m.formals } = .ok m ↔
        ∀ (j : Nat) (m' : Method t.type), t.methods[j]? = some m' → rules.admits m'.visibility →
          rules.nameMatches m'.name m.name → m'.formals = m.formals → j = k)) := by
  refine ⟨?_, fun _ _ _ h => t.findMethod_signed h, fun _ _ _ hk hm => t.findMethod_own_iff hk hm⟩
  intro q r r' h
  have hsublist := t.sublist_methodCandidates q h
  have hnarrowed := t.narrowed_of_sublist q.name hsublist
  exact ⟨hsublist, hnarrowed.of_ok, hnarrowed.of_ambiguous⟩

/-- What the subject hides is not found under the standard rules; `reset` passes nothing by
reference, and is not found with a signature that does; and the first `format` answers to its
parameters alone, also when its name is compared regardless of case. -/
theorem rules_narrow_lookup_subject :
    (BindingRules.standard ≤ .everything ∧
      Subject.definition.findMethod { name := "secret" } =
        .error (.memberNotFound "Sample" "secret")) ∧
    Subject.definition.findMethod
        { name := "reset", signature := some [.byValue .text, .reference .text] } =
      .error (.memberNotFound "Sample" "reset") ∧
    Subject.definition.findMethod
        { name := "format", rules := { BindingRules.everything with ignoreCase := true },
          signature := some [.byValue .text, .byValue .text] } = .ok Subject.methods[0] := by
  obtain ⟨hrules, hsigned, hown⟩ := rules_narrow_lookup Subject.definition
  refine ⟨⟨by decide, ?_⟩, ?_, ?_⟩
  · obtain ⟨-, hfound, -⟩ := hrules { name := "secret" } .standard .everything (by decide)
    obtain hsame | hnone := hfound Subject.methods[4] rfl
    · cases hsame
    · exact hnone
  · rw [hsigned "reset" .standard Subject.methods[2] rfl]
    exact if_neg (by decide)
  · refine (hown { BindingRules.everything with ignoreCase := true } 0 Subject.methods[0] rfl
      rfl).mpr ?_
    intro j m' hj _ hname hformals
    match j with
    | 0 => rfl
    | 1 | 3 | 4 => cases hj; cases hformals
    | 2 => cases hj; cases hname
    | j + 5 => cases hj

end LateBinding
