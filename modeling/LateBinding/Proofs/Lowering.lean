import Mathlib.Data.List.Forall2
import LateBinding.Proofs.Admission
import LateBinding.Proofs.Container

/-!
# Lowering: plans hold the declared signature

Between the parameters a member declares and the positions a call reads stand two lists, the
argument expressions of the plan and the slots they are lowered to.  Every parameter keeps its place
in both, its type and the way it is passed.  A setter is the exception: the value it assigns stands
in no container, so that its one expression is not lowered at all.

* `Slot.ofExprs_eq_ok_iff`, `Slot.countP_writesBack_of_ofExprs` — expressions are lowered one by
  one, and lowering keeps the number of those that write back;
* `Slot.getElem?_ofFormals`, `Slot.readOnly_ofFormals` — the slots of a parameter list, position by
  position, and those of the two variants;
* `Slot.Serves`, `Plan.LowersTo` — a slot for a parameter, and a plan with the slots of a parameter
  list;
* `Member.Admissible`, `Member.plan_ok_iff_admissible` — the requests that have a plan;
* `Member.lowersTo_of_plan` — the plans of getters, methods and constructors;
* `ArgExpr.assignedAs`, `Plan.Assigns`, `Property.assigns_of_plan` — the value that a setter
  assigns, and the plans of setters;
* `plan_lowers_to_signature` — all of it, for every member and every admissible request.
-/

namespace LateBinding

/-! ### Lists of expressions -/

namespace Slot

/-- **Expressions are lowered one by one.** -/
theorem ofExprs_eq_ok_iff {es : List ArgExpr} {slots : List Slot} :
    ofExprs es = .ok slots ↔ List.Forall₂ (fun e slot => ofExpr e = .ok slot) es slots := by
  induction es generalizing slots with
  | nil =>
    rw [List.forall₂_nil_left_iff]
    constructor
    · intro h
      cases h
      rfl
    · rintro rfl
      rfl
  | cons e es ih =>
    rw [List.forall₂_cons_left_iff, ofExprs]
    constructor
    · intro h
      split at h
      · cases h
      rename_i slot hslot
      split at h
      · cases h
      rename_i rest hrest
      cases h
      exact ⟨slot, rest, hslot, ih.mp hrest, rfl⟩
    · rintro ⟨slot, rest, hslot, hrest, rfl⟩
      simp only [hslot, ih.mpr hrest]

/-- A slot writes back if its expression does. -/
theorem writesBack_of_ofExpr {e : ArgExpr} {slot : Slot} (h : ofExpr e = .ok slot) :
    slot.writesBack = e.writesBack := by
  rw [ofExpr] at h
  split at h
  · cases h
    rfl
  · cases h

/-- **Lowering keeps the number of positions written back.** -/
theorem countP_writesBack_of_ofExprs {es : List ArgExpr} {slots : List Slot}
    (h : ofExprs es = .ok slots) :
    es.countP ArgExpr.writesBack = slots.countP Slot.writesBack := by
  have hlowered := ofExprs_eq_ok_iff.mp h
  clear h
  induction hlowered with
  | nil => rfl
  | cons hslot _ ih => rw [List.countP_cons, List.countP_cons, ih, writesBack_of_ofExpr hslot]

/-! ### Lists of parameters -/

theorem length_ofFormals (variant : Variant) (ps : List Formal) :
    ∀ i, (ofFormals variant i ps).length = ps.length := by
  induction ps with
  | nil => intro i; rfl
  | cons p ps ih => intro i; rw [ofFormals, List.length_cons, List.length_cons, ih]

/-- The slot without its write-back. -/
def readOnly (slot : Slot) : Slot := { slot with writesBack := false }

/-- The slots of the two variants differ in their write-backs only. -/
theorem readOnly_ofFormals (ps : List Formal) :
    ∀ i, (ofFormals .byRef i ps).map readOnly = ofFormals .byValue i ps := by
  induction ps with
  | nil => intro i; rfl
  | cons p ps ih => intro i; rw [ofFormals, ofFormals, List.map_cons, ih]; rfl

/-- A slot reads the argument of a parameter: its position, converted to its type unless any value
will do, and written back if the call does so and the parameter is passed by reference. -/
structure Serves (slot : Slot) (variant : Variant) (i : Nat) (p : Formal) : Prop where
  position_eq : slot.position = i
  passthrough_iff : slot.check = .passthrough ↔ p.element = .any
  check_eq : p.element ≠ .any → slot.check = .checked p.element
  writesBack_iff : slot.writesBack = true ↔ variant = .byRef ∧ p.byRef = true

theorem serves_mk (variant : Variant) (i : Nat) (p : Formal) :
    Serves ⟨i, .ofType p.element, variant = .byRef && p.byRef⟩ variant i p where
  position_eq := rfl
  passthrough_iff := by
    rw [Check.ofType]
    split <;> simp_all
  check_eq h := if_neg h
  writesBack_iff := by rw [Bool.and_eq_true, decide_eq_true_iff]

end Slot

/-! ### Plans with slots -/

/-- The plan holds one expression for each parameter, and these are lowered to slots that read the
arguments of the parameters, each in its place. -/
structure Plan.LowersTo (plan : Plan) (variant : Variant) (formals : List Formal)
    (slots : List Slot) : Prop where
  length_arguments : plan.arguments.length = formals.length
  lowered : Slot.ofExprs plan.arguments = .ok slots
  length_slots : slots.length = formals.length
  serves : ∀ (i : Nat) (p : Formal), formals[i]? = some p → ∃ e slot,
    plan.arguments[i]? = some e ∧ slots[i]? = some slot ∧ Slot.ofExpr e = .ok slot ∧
      slot.Serves variant i p
  writeBacks_eq : plan.writeBacks = slots.countP Slot.writesBack

/-- A plan whose expressions are lowered to the slots of a parameter list holds that list. -/
theorem Plan.lowersTo_ofFormals {plan : Plan} {variant : Variant} {formals : List Formal}
    (h : Slot.ofExprs plan.arguments = .ok (Slot.ofFormals variant 0 formals)) :
    plan.LowersTo variant formals (Slot.ofFormals variant 0 formals) := by
  have hlowered := Slot.ofExprs_eq_ok_iff.mp h
  have hlength := hlowered.length_eq
  have hslots := Slot.length_ofFormals variant formals 0
  refine ⟨hlength.trans hslots, h, hslots, ?_, Slot.countP_writesBack_of_ofExprs h⟩
  intro i p hp
  have hslot := Slot.getElem?_ofFormals variant formals 0 i
  rw [hp, Option.map_some, Nat.zero_add] at hslot
  obtain ⟨hi, hget⟩ := List.getElem?_eq_some_iff.mp hslot
  have hexpr := hlowered.get (hlength ▸ hi) hi
  refine ⟨_, _, List.getElem?_eq_getElem (hlength ▸ hi), hslot, ?_, Slot.serves_mk variant i p⟩
  rw [← hget]
  exact hexpr

namespace Member

variable {declaring : TypeTag}

/-- The requests for a receiver `I` and a result `R` that have a plan.  An accessor has to exist; a
receiver, where there is one, may be left open or is of the declaring type; the result, or the value
assigned, is boxed or of the declared type. -/
def Admissible (I R : TypeTag) : Member declaring → Prop
  | constructor _ => R = .any ∨ R = declaring
  | method m => (I = .object ∨ I = declaring) ∧ (R = .any ∨ R = m.result)
  | getter p => p.read?.isSome ∧ (I = .object ∨ I = declaring) ∧ (R = .any ∨ R = p.type)
  | setter p => p.write?.isSome ∧ (I = .object ∨ I = declaring) ∧ (R = .any ∨ R = p.type)

variable {member : Member declaring} {I R : TypeTag} {variant : Variant}

/-- **The admissible requests are those that have a plan**, in either variant. -/
theorem plan_ok_iff_admissible :
    (∃ plan, member.plan I R variant = .ok plan) ↔ member.Admissible I R := by
  cases member with
  | constructor c => exact c.plan_ok_iff
  | method m => exact m.plan_ok_iff
  | getter p => exact p.plan_getter_ok_iff
  | setter p => exact p.plan_setter_ok_iff

/-- **The plan of any member but a setter holds its parameters.** -/
theorem lowersTo_of_plan {plan : Plan} (hm : member.kind ≠ .setter)
    (h : member.plan I R variant = .ok plan) :
    plan.LowersTo variant member.formals (Slot.ofFormals variant 0 member.formals) :=
  Plan.lowersTo_ofFormals (ofExprs_exchange hm (exchange_of_plan h))

end Member

/-! ### Setters -/

/-- The value that a setter assigns, given as type `V`: it is converted where any value may be
given, and only there. -/
def ArgExpr.assignedAs (V declared : TypeTag) : ArgExpr :=
  if V = .any then .converted .assigned declared else .assigned

theorem ArgExpr.slot?_assignedAs (V declared : TypeTag) : (assignedAs V declared).slot? = none := by
  rw [assignedAs]
  split <;> rfl

theorem ArgExpr.target?_assignedAs (V declared : TypeTag) :
    (assignedAs V declared).target? = if V = .any then some declared else none := by
  rw [assignedAs]
  split <;> rfl

theorem ArgExpr.writesBack_assignedAs (V declared : TypeTag) :
    (assignedAs V declared).writesBack = false := by
  rw [assignedAs]
  split <;> rfl

/-- The plan has a single expression, for the value that a setter assigns: it reads no position of a
container, so that it is not lowered, and nothing is written back. -/
structure Plan.Assigns (plan : Plan) (V declared : TypeTag) : Prop where
  arguments_eq : plan.arguments = [.assignedAs V declared]
  slot?_eq : ∀ e ∈ plan.arguments, e.slot? = none
  not_lowered : ∃ refusal, Slot.ofExprs plan.arguments = .error refusal
  target?_eq : ∀ e ∈ plan.arguments, e.target? = if V = .any then some declared else none
  writeBacks_eq : plan.writeBacks = 0

theorem Plan.assigns_of_arguments {plan : Plan} {V declared : TypeTag}
    (h : plan.arguments = [.assignedAs V declared]) : plan.Assigns V declared where
  arguments_eq := h
  slot?_eq := by
    rw [h, List.forall_mem_singleton]
    exact ArgExpr.slot?_assignedAs V declared
  not_lowered := by
    rw [h, Slot.ofExprs, Slot.ofExpr]
    simp only [ArgExpr.slot?_assignedAs]
    exact ⟨_, rfl⟩
  target?_eq := by
    rw [h, List.forall_mem_singleton]
    exact ArgExpr.target?_assignedAs V declared
  writeBacks_eq := by
    rw [Plan.writeBacks, h, List.countP_singleton, ArgExpr.writesBack_assignedAs]
    rfl

/-- **The plan of a setter assigns.** -/
theorem Property.assigns_of_plan {declaring : TypeTag} {p : Property declaring} {I V : TypeTag}
    {variant : Variant} {plan : Plan} (h : (Member.setter p).plan I V variant = .ok plan) :
    plan.Assigns V p.type := by
  have hexchange := Member.exchange_of_plan h
  simp only [Member.exchange, Member.assignedValue] at hexchange
  refine Plan.assigns_of_arguments ?_
  rw [ArgExpr.assignedAs]
  by_cases hany : V = .any
  · simp only [if_pos hany] at hexchange ⊢
    exact (Prod.mk.inj (Except.ok.inj hexchange)).1.symm
  · by_cases hdeclared : V = p.type
    · simp only [if_neg hany, if_pos hdeclared] at hexchange ⊢
      exact (Prod.mk.inj (Except.ok.inj hexchange)).1.symm
    · simp only [if_neg hany, if_neg hdeclared] at hexchange
      cases hexchange

/-- **Plans lower to the declared signature.**  On every admissible request, and on no other, a
member has a plan, by value and with write-back alike.  A constructor, a method or a getter has one
expression for each parameter, and these are lowered to slots that read the arguments in their
places, converted to the types of the parameters; the slots of the two variants differ in their
write-backs only.  A setter has one expression, for the value assigned, which is not lowered. -/
theorem plan_lowers_to_signature {declaring : TypeTag} (member : Member declaring)
    (I R : TypeTag) :
    (∀ variant, (∃ plan, member.plan I R variant = .ok plan) ↔ member.Admissible I R) ∧
    (member.kind ≠ .setter → member.Admissible I R → ∃ plan plan' slots slots',
      member.plan I R .byValue = .ok plan ∧ plan.LowersTo .byValue member.formals slots ∧
      member.plan I R .byRef = .ok plan' ∧ plan'.LowersTo .byRef member.formals slots' ∧
      slots = slots'.map Slot.readOnly) ∧
    (∀ p, member = .setter p → member.Admissible I R → ∀ variant, ∃ plan,
      member.plan I R variant = .ok plan ∧ plan.Assigns R p.type) := by
  have hplanned : ∀ variant, (∃ plan, member.plan I R variant = .ok plan) ↔
      member.Admissible I R := fun variant => Member.plan_ok_iff_admissible
  refine ⟨hplanned, ?_, ?_⟩
  · intro hkind hadmissible
    obtain ⟨plan, hplan⟩ := (hplanned .byValue).mpr hadmissible
    obtain ⟨plan', hplan'⟩ := (hplanned .byRef).mpr hadmissible
    exact ⟨plan, plan', _, _, hplan, Member.lowersTo_of_plan hkind hplan, hplan',
      Member.lowersTo_of_plan hkind hplan', (Slot.readOnly_ofFormals member.formals 0).symm⟩
  · rintro p rfl hadmissible variant
    obtain ⟨plan, hplan⟩ := (hplanned variant).mpr hadmissible
    exact ⟨plan, hplan, Property.assigns_of_plan hplan⟩

/-- Two of three parameters are passed by reference.  With write-back the last one is taken as it is
and written back, the text between them is only read; by value nothing is written back.  The label
of a subject, given as any value, is converted, and is read from no container. -/
theorem plan_lowers_to_signature_mixedScript :
    (∃ plan plan' slots slot slot',
      (Member.method (mixedScript.method "Alpha" "mix" []) : Member _).plan .object .any .byValue =
        .ok plan ∧
      plan.writeBacks = 0 ∧
      (Member.method (mixedScript.method "Alpha" "mix" []) : Member _).plan .object .any .byRef =
        .ok plan' ∧
      plan'.writeBacks = 2 ∧ Slot.ofExprs plan'.arguments = .ok slots ∧
      slots[1]? = some slot ∧ slot.position = 1 ∧ slot.check = .checked .text ∧
      slot.writesBack = false ∧ slots[2]? = some slot' ∧ slot'.position = 2 ∧
      slot'.check = .passthrough ∧ slot'.writesBack = true) ∧
    ∃ plan, (Member.setter Subject.labelProperty).plan Subject.type .any .byRef = .ok plan ∧
      plan.arguments = [.converted .assigned .text] ∧ plan.writeBacks = 0 ∧
      ∃ refusal, Slot.ofExprs plan.arguments = .error refusal := by
  obtain ⟨-, hmixed, -⟩ := plan_lowers_to_signature
    (.method (mixedScript.method "Alpha" "mix" [])) .object .any
  obtain ⟨-, -, hlabel⟩ :=
    plan_lowers_to_signature (.setter Subject.labelProperty) Subject.type .any
  constructor
  · obtain ⟨plan, plan', _, slots, hplan, hlowers, hplan', hlowers', hsame⟩ :=
      hmixed nofun ⟨.inl rfl, .inl rfl⟩
    obtain ⟨_, slot, -, hslot, -, htext⟩ := hlowers'.serves 1 (.byValue .text) rfl
    obtain ⟨_, slot', -, hslot', -, hany⟩ := hlowers'.serves 2 (.reference .any) rfl
    refine ⟨plan, plan', slots, slot, slot', hplan, ?_, hplan', ?_, hlowers'.lowered, hslot,
      htext.position_eq, htext.check_eq nofun, ?_, hslot', hany.position_eq,
      hany.passthrough_iff.mpr rfl, hany.writesBack_iff.mpr ⟨rfl, rfl⟩⟩
    · cases hplan
      rfl
    · cases hplan'
      rfl
    · exact Bool.eq_false_iff.mpr fun hback => nomatch (htext.writesBack_iff.mp hback).2
  · obtain ⟨plan, hplan, hassigns⟩ := hlabel Subject.labelProperty rfl
      ⟨rfl, .inr rfl, .inl rfl⟩ .byRef
    exact ⟨plan, hplan, hassigns.arguments_eq, hassigns.writeBacks_eq, hassigns.not_lowered⟩

end LateBinding
