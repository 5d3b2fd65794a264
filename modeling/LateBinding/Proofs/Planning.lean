import LateBinding.Delegate.Compile

/-!
# Planning: the slots of a parameter list

Compiling a member goes from its parameters to argument expressions and from these to slots.  This
file composes the two steps, and says when there is a plan at all.

* `Slot.ofFormals` — the slots that a parameter list asks for, position by position;
* `Slot.ofExprs_byValue`, `Slot.ofExprs_byRef` — the argument expressions of a member lower to them;
* `Member.slots_of_planSlots` — so whatever types a plan was made for, its slots are these;
* `Member.receiverAccess_ok_iff`, `Member.resultHandling_ok_iff`, `Member.assignedValue_ok_iff` —
  what each decision of a plan accepts;
* `Method.plan_ok_iff`, `Constructor.plan_ok_iff` — there is a plan just when the receiver is left
  open or is the declaring type, and the result is boxed or of the declared type.
-/

namespace LateBinding

/-! ### From expressions to slots -/

namespace Slot

/-- The slots of a parameter list whose first parameter stands at position `i`. -/
def ofFormals (variant : Variant) : (i : Nat) → List Formal → List Slot
  | _, [] => []
  | i, p :: ps =>
    ⟨i, .ofType p.element, variant = .byRef && p.byRef⟩ :: ofFormals variant (i + 1) ps

theorem ofExpr_ofFormal (container : ArgExpr) (p : Formal) (i : Nat) :
    ofExpr (.ofFormal container p i) = .ok ⟨i, .ofType p.element, false⟩ := rfl

theorem ofExpr_ofFormalByRef (container : ArgExpr) (p : Formal) (i : Nat) :
    ofExpr (.ofFormalByRef container p i) = .ok ⟨i, .ofType p.element, p.byRef⟩ := by
  rw [ArgExpr.ofFormalByRef]
  cases hp : p.byRef <;> rfl

/-- The expressions of a parameter list lower to its slots, if each of them does. -/
theorem ofExprs_mapIdx (variant : Variant) {expr : Formal → Nat → ArgExpr}
    (hexpr : ∀ p i, ofExpr (expr p i) = .ok ⟨i, .ofType p.element, variant = .byRef && p.byRef⟩)
    (ps : List Formal) :
    ∀ i, ofExprs (ps.mapIdx fun k p => expr p (k + i)) = .ok (ofFormals variant i ps) := by
  induction ps with
  | nil => intro i; rfl
  | cons p ps ih =>
    intro i
    have hrest : (ps.mapIdx fun k p => expr p (k + 1 + i)) =
        ps.mapIdx fun k p => expr p (k + (i + 1)) := by
      simp only [Nat.add_right_comm _ 1 i, Nat.add_assoc]
    rw [List.mapIdx_cons, Nat.zero_add, ofExprs, hexpr]
    simp only [hrest, ih (i + 1)]
    rfl

/-- **The slot of a parameter** stands at the place of the parameter, and reads that position. -/
theorem getElem?_ofFormals (variant : Variant) (ps : List Formal) :
    ∀ i k : Nat, (ofFormals variant i ps)[k]? = ps[k]?.map fun p : Formal =>
      (⟨i + k, .ofType p.element, variant = .byRef && p.byRef⟩ : Slot) := by
  induction ps with
  | nil => intro i k; rfl
  | cons p ps ih =>
    intro i k
    rw [ofFormals]
    cases k with
    | zero => rfl
    | succ k =>
      rw [List.getElem?_cons_succ, List.getElem?_cons_succ, ih, Nat.add_right_comm i 1 k]
      rfl

theorem ofExprs_byValue {declaring : TypeTag} {ν : Type} (member : Member declaring ν)
    (container : ArgExpr) :
    ofExprs (ArgExpr.byValue member container) =
      .ok (ofFormals .byValue 0 (ArgExpr.containerFormals member)) :=
  ofExprs_mapIdx .byValue (fun p i => ofExpr_ofFormal container p i) _ 0

theorem ofExprs_byRef {declaring : TypeTag} {ν : Type} (member : Member declaring ν)
    (container : ArgExpr) :
    ofExprs (ArgExpr.byRef member container) =
      .ok (ofFormals .byRef 0 (ArgExpr.containerFormals member)) :=
  ofExprs_mapIdx .byRef (fun p i => ofExpr_ofFormalByRef container p i) _ 0

end Slot

/-! ### The slots of a plan -/

namespace Member

variable {declaring : TypeTag} {ν : Type} {member : Member declaring ν} {I R : TypeTag}
  {variant : Variant}

/-- The arguments of every member but a setter lower to the slots of its parameters. -/
theorem ofExprs_exchange {arguments : List ArgExpr} {result : ResultHandling}
    (hm : member.kind ≠ .setter) (h : member.exchange R variant = .ok (arguments, result)) :
    Slot.ofExprs arguments = .ok (Slot.ofFormals variant 0 member.formals) := by
  have hformals : ArgExpr.containerFormals member = member.formals := by
    cases member <;> first | rfl | exact absurd rfl hm
  cases member with
  | setter p => exact absurd rfl hm
  | constructor | method | getter =>
    simp only [exchange] at h
    split at h
    · cases h
    · cases h
      cases variant with
      | byValue => rw [← hformals]; exact Slot.ofExprs_byValue _ _
      | byRef => rw [← hformals]; exact Slot.ofExprs_byRef _ _

/-- A plan holds the arguments of its exchange. -/
theorem exchange_of_plan {plan : Plan} (h : member.plan I R variant = .ok plan) :
    member.exchange R variant = .ok (plan.arguments, plan.result) := by
  simp only [Member.plan] at h
  split at h
  · cases h
  split at h
  · cases h
  split at h
  · cases h
  · rename_i hexchange
    cases h
    exact hexchange

/-- **Whatever types a plan was made for, its slots are those of the parameters.** -/
theorem slots_of_planSlots {plan : Plan} {slots : List Slot} (hm : member.kind ≠ .setter)
    (h : member.planSlots I R variant = .ok (plan, slots)) :
    slots = Slot.ofFormals variant 0 member.formals ∧ Slot.ofExprs plan.arguments = .ok slots := by
  simp only [planSlots] at h
  split at h
  · cases h
  · rename_i hplan
    rw [ofExprs_exchange hm (exchange_of_plan hplan)] at h
    cases h
    exact ⟨rfl, ofExprs_exchange hm (exchange_of_plan hplan)⟩

/-- **The slots of a plan come with the plan**: lowering its arguments never fails. -/
theorem planSlots_eq_map (hm : member.kind ≠ .setter) :
    member.planSlots I R variant =
      (member.plan I R variant).map fun plan =>
        (plan, Slot.ofFormals variant 0 member.formals) := by
  rw [planSlots]
  cases hplan : member.plan I R variant with
  | error refusal => rfl
  | ok plan =>
    have hslots := ofExprs_exchange hm (exchange_of_plan hplan)
    simp only [hslots]
    rfl

/-! ### Requests that have a plan -/

/-- There is a plan when the accessor exists, the receiver can be reached and the values can be
exchanged. -/
theorem plan_ok_iff : (∃ plan, member.plan I R variant = .ok plan) ↔
    member.checkAccessor = .ok () ∧ (∃ access, member.receiverAccess I = .ok access) ∧
      ∃ exchanged, member.exchange R variant = .ok exchanged := by
  constructor
  · rintro ⟨plan, hplan⟩
    have hexchange := exchange_of_plan hplan
    simp only [Member.plan] at hplan
    split at hplan
    · cases hplan
    rename_i hcheck
    split at hplan
    · cases hplan
    rename_i access haccess
    exact ⟨hcheck, ⟨access, haccess⟩, _, hexchange⟩
  · rintro ⟨hcheck, ⟨access, haccess⟩, exchanged, hexchange⟩
    simp only [Member.plan, hcheck, haccess, hexchange]
    exact ⟨_, rfl⟩

/-- The receiver of a member that has one can be left open or be of the declaring type. -/
theorem receiverAccess_ok_iff (hm : member.hasInstance = true) :
    (∃ access, member.receiverAccess I = .ok access) ↔ I = .object ∨ I = declaring := by
  simp only [receiverAccess, hm, if_true]
  by_cases hopen : I = .object
  · simp [hopen]
  · by_cases hdeclaring : I = declaring
    · rw [if_neg hopen, if_pos hdeclaring]
      exact ⟨fun _ => .inr hdeclaring, fun _ => ⟨_, rfl⟩⟩
    · simp [hopen, hdeclaring]

/-- The result can be boxed or be of the declared type, which is `unit` if there is none. -/
theorem resultHandling_ok_iff : (∃ result, member.resultHandling R = .ok result) ↔
    R = .any ∨ R = member.returns.getD .unit := by
  rw [resultHandling]
  cases member.returns with
  | none =>
    by_cases hany : R = .any
    · simp [hany]
    · by_cases hunit : R = .unit <;> simp [hany, hunit]
  | some T =>
    by_cases hdeclared : T = R
    · simp [hdeclared]
    · by_cases hany : R = .any
      · simp only [if_neg hdeclared, if_pos hany]
        exact ⟨fun _ => .inl hany, fun _ => ⟨_, rfl⟩⟩
      · simp [hdeclared, hany, Ne.symm hdeclared]

/-- What is not a setter exchanges its values as soon as the result is obtained. -/
theorem exchange_ok_iff (hm : member.kind ≠ .setter) :
    (∃ exchanged, member.exchange R variant = .ok exchanged) ↔
      ∃ result, member.resultHandling R = .ok result := by
  cases member with
  | setter p => exact absurd rfl hm
  | constructor | method | getter =>
    simp only [exchange]
    split <;> simp_all

/-- The assigned value can be any or one of the property's type. -/
theorem assignedValue_ok_iff {V declared : TypeTag} :
    (∃ value, member.assignedValue V declared = .ok value) ↔ V = .any ∨ V = declared := by
  rw [assignedValue]
  by_cases hany : V = .any
  · simp [hany]
  · by_cases hdeclared : V = declared
    · rw [if_neg hany, if_pos hdeclared]
      exact ⟨fun _ => .inr hdeclared, fun _ => ⟨_, rfl⟩⟩
    · simp [hany, hdeclared]

end Member

namespace Method

variable {declaring : TypeTag} (m : Method declaring)

/-- The slots of a method. -/
def slots (variant : Variant) : List Slot := Slot.ofFormals variant 0 m.formals

theorem returns_getD : m.returns.getD .unit = m.result := by
  rw [returns]
  split
  · rename_i hunit
    exact hunit.symm
  · rfl

/-- **A method has a plan** for an open receiver or one of the declaring type, and for a boxed
result or one of the declared type. -/
theorem plan_ok_iff {I R : TypeTag} {variant : Variant} :
    (∃ plan, (Member.method m : Member _).plan I R variant = .ok plan) ↔
      (I = .object ∨ I = declaring) ∧ (R = .any ∨ R = m.result) := by
  have hkind : (Member.method m : Member _).kind ≠ .setter := by simp [Member.kind]
  have hreturns : (Member.method m : Member _).returns.getD .unit = m.result := m.returns_getD
  rw [Member.plan_ok_iff, Member.receiverAccess_ok_iff rfl, Member.exchange_ok_iff hkind,
    Member.resultHandling_ok_iff, hreturns]
  exact and_iff_right rfl

variable {m}

theorem planSlots_of_plan {I R : TypeTag} {variant : Variant} {plan : Plan}
    (h : (Member.method m : Member _).plan I R variant = .ok plan) :
    (Member.method m : Member _).planSlots I R variant = .ok (plan, m.slots variant) := by
  rw [Member.planSlots_eq_map (by simp [Member.kind]), h]
  rfl

theorem planSlots_of_refusal {I R : TypeTag} {variant : Variant} {refusal : Refusal}
    (h : (Member.method m : Member _).plan I R variant = .error refusal) :
    (Member.method m : Member _).planSlots I R variant = .error refusal := by
  rw [Member.planSlots_eq_map (by simp [Member.kind]), h]
  rfl

variable (m)

theorem planSlots_eq_ok {I R : TypeTag} (variant : Variant) (hI : I = .object ∨ I = declaring)
    (hR : R = .any ∨ R = m.result) :
    ∃ plan, (Member.method m : Member _).planSlots I R variant = .ok (plan, m.slots variant) := by
  obtain ⟨plan, hplan⟩ : ∃ plan, (Member.method m : Member _).plan I R variant = .ok plan :=
    m.plan_ok_iff.mpr ⟨hI, hR⟩
  exact ⟨plan, planSlots_of_plan hplan⟩

end Method

namespace Constructor

variable {declaring : TypeTag} (c : Constructor declaring)

/-- The slots of a constructor. -/
def slots (variant : Variant) : List Slot := Slot.ofFormals variant 0 c.formals

/-- A constructor has a plan for a boxed instance or one of the constructed type. -/
theorem plan_ok_iff {I R : TypeTag} {variant : Variant} :
    (∃ plan, (Member.constructor c : Member _).plan I R variant = .ok plan) ↔
      R = .any ∨ R = declaring := by
  have hkind : (Member.constructor c : Member _).kind ≠ .setter := by simp [Member.kind]
  rw [Member.plan_ok_iff, Member.exchange_ok_iff hkind, Member.resultHandling_ok_iff]
  have hopen : ∃ access, (Member.constructor c : Member _).receiverAccess I = .ok access :=
    ⟨.absent, rfl⟩
  exact ⟨fun h => h.2.2, fun h => ⟨rfl, hopen, h⟩⟩

theorem planSlots_eq_ok {I R : TypeTag} (variant : Variant) (hR : R = .any ∨ R = declaring) :
    ∃ plan, (Member.constructor c : Member _).planSlots I R variant =
      .ok (plan, c.slots variant) := by
  obtain ⟨plan, hplan⟩ : ∃ plan, (Member.constructor c : Member _).plan I R variant = .ok plan :=
    c.plan_ok_iff.mpr hR
  refine ⟨plan, ?_⟩
  rw [Member.planSlots_eq_map (by simp [Member.kind]), hplan]
  rfl

end Constructor

end LateBinding
