import LateBinding.Proofs.Access
import LateBinding.Proofs.InPlace

/-!
# Admission: which requests can be compiled

A request names the type of the receiver, and the type of the result or of the assigned value.  Two
parts of compiling decide on it, each in its own terms: the plan compares the types asked for with
the declared ones, and the member looks for an entry point that has the types asked for.

* `Admits` — compiling a descriptor succeeds on certain requests, and is refused on all others;
* `Decided`, `Decided.of_agree` — that it is the plan who refuses, since plan and entry points
  agree;
* `Method.exists_entry?_iff`, `Property.exists_readEntry?_iff`, `Property.exists_write_iff` — the
  requests with an entry point;
* `Property.plan_getter_ok_iff`, `Property.plan_setter_ok_iff` — the requests with a plan, as
  `Method.plan_ok_iff` has them for methods;
* `compiles_iff_admissible` — all kinds of members and all their requests.
-/

namespace LateBinding

/-! ### Two decisions on a request -/

section Decision

variable {α β : Type}

/-- Compiling a descriptor succeeds on what is admissible.  It fails only with a refusal, also when
no descriptor is supplied. -/
structure Admits (kind : String) (compile : α → Except Refusal β) (descriptor : α)
    (admissible : Prop) : Prop where
  accepted_iff : (∃ d, compiled kind compile (some descriptor) = .ok d) ↔ admissible
  refused : ∀ descriptor? e, compiled kind compile descriptor? = .error e →
    ∃ refusal, e = .invalidMember refusal

/-- The same, with the plan as the one who refuses: it accepts the requests that have an entry
point, so that behind a plan no entry point is missing. -/
structure Decided (kind : String) (compile : α → Except Refusal β) (descriptor : α)
    (plan : Except Refusal Plan) (entry admissible : Prop) : Prop
    extends Admits kind compile descriptor admissible where
  planned_iff : (∃ p, plan = .ok p) ↔ entry
  refused_by_plan : ∀ refusal, compile descriptor = .error refusal → plan = .error refusal

variable {kind : String} {compile : α → Except Refusal β} {descriptor : α}
  {plan : Except Refusal Plan} {entry admissible : Prop}

theorem compiled_ok_iff :
    (∃ d, compiled kind compile (some descriptor) = .ok d) ↔
      ∃ d, compile descriptor = .ok d := by
  rw [compiled]
  cases compile descriptor with
  | error refusal =>
    refine iff_of_false ?_ ?_
    · rintro ⟨d, hd⟩
      cases hd
    · rintro ⟨d, hd⟩
      cases hd
  | ok d => exact iff_of_true ⟨d, rfl⟩ ⟨d, rfl⟩

theorem compiled_refused (descriptor? : Option α) {e : DelegateError}
    (h : compiled kind compile descriptor? = .error e) :
    ∃ refusal, e = .invalidMember refusal := by
  cases descriptor? with
  | none =>
    cases h
    exact ⟨_, rfl⟩
  | some descriptor =>
    rw [compiled] at h
    cases hcompile : compile descriptor with
    | error refusal =>
      rw [hcompile] at h
      cases h
      exact ⟨refusal, rfl⟩
    | ok d =>
      rw [hcompile] at h
      cases h

theorem Admits.of_iff (h : (∃ d, compile descriptor = .ok d) ↔ admissible) :
    Admits kind compile descriptor admissible where
  accepted_iff := compiled_ok_iff.trans h
  refused descriptor? _ := compiled_refused descriptor?

/-- **If plan and entry points agree on what is admissible, the plan decides.** -/
theorem Decided.of_agree (hplan : (∃ p, plan = .ok p) ↔ admissible) (hentry : entry ↔ admissible)
    (hrefused : ∀ refusal, plan = .error refusal → compile descriptor = .error refusal)
    (hentered : ∀ p, plan = .ok p → entry → ∃ d, compile descriptor = .ok d) :
    Decided kind compile descriptor plan entry admissible := by
  cases h : plan with
  | error refusal =>
    have hno : ¬ admissible := by
      rw [← hplan, h]
      rintro ⟨p, hp⟩
      cases hp
    have herror := hrefused refusal h
    refine ⟨.of_iff ?_, ?_, ?_⟩
    · rw [herror]
      exact iff_of_false (fun ⟨d, hd⟩ => by cases hd) hno
    · exact iff_of_false (fun ⟨p, hp⟩ => by cases hp) (mt hentry.mp hno)
    · intro refusal' h'
      rw [herror] at h'
      cases h'
      rfl
  | ok p =>
    have hyes : admissible := hplan.mp ⟨p, h⟩
    obtain ⟨d, hd⟩ := hentered p h (hentry.mpr hyes)
    refine ⟨.of_iff (iff_of_true ⟨d, hd⟩ hyes), iff_of_true ⟨p, rfl⟩ (hentry.mpr hyes), ?_⟩
    intro refusal h'
    rw [hd] at h'
    cases h'

end Decision

/-! ### Constructors -/

namespace Constructor

variable {declaring : TypeTag} (c : Constructor declaring)

theorem compile_ok_iff : (∃ d, c.compile = .ok d) ↔ True := by
  obtain ⟨plan, hd⟩ := c.exists_compile
  exact iff_of_true ⟨_, hd⟩ trivial

/-- Here the entry point decides: a plan is there for a boxed instance as well. -/
theorem compileTyped_ok_iff {T : TypeTag} : (∃ d, c.compileTyped T = .ok d) ↔ T = declaring := by
  by_cases hT : T = declaring
  · subst hT
    obtain ⟨plan, hd⟩ := c.exists_compileTyped
    exact iff_of_true ⟨_, hd⟩ rfl
  · refine iff_of_false ?_ hT
    rintro ⟨d, hd⟩
    rw [compileTyped] at hd
    split at hd
    · cases hd
    · simp only [c.typed?_foreign (Ne.symm hT)] at hd
      cases hd

end Constructor

/-! ### Methods -/

namespace Method

variable {declaring : TypeTag} (m : Method declaring)

theorem exists_entry?_iff {T R : TypeTag} :
    (∃ entry, m.entry? T R = some entry) ↔ T = declaring ∧ (R = .any ∨ R = m.result) := by
  constructor
  · rintro ⟨entry, hentry⟩
    exact m.asked_of_entry? hentry
  · rintro ⟨rfl, rfl | rfl⟩
    · exact ⟨_, m.entry?_any⟩
    · exact ⟨_, m.entry?_result⟩

/-- A method that leaves the receiver open has its entry point in any case. -/
theorem decided_compile :
    Decided "method" Method.compile m ((Member.method m : Member _).plan .object .any .byValue) True
      True := by
  refine .of_agree ?_ Iff.rfl ?_ ?_
  · simp [m.plan_ok_iff]
  · intro refusal h
    rw [compile, planSlots_of_refusal h]
  · intro plan h _
    exact ⟨_, by rw [compile, planSlots_of_plan h]⟩

theorem decided_compileByRef :
    Decided "method" Method.compileByRef m ((Member.method m : Member _).plan .object .any .byRef)
      True True := by
  refine .of_agree ?_ Iff.rfl ?_ ?_
  · simp [m.plan_ok_iff]
  · intro refusal h
    rw [compileByRef, planSlots_of_refusal h]
  · intro plan h _
    exact ⟨_, by rw [compileByRef, planSlots_of_plan h]⟩

variable {T : TypeTag} (hT : T ≠ .object) (R : TypeTag)

include hT

/-- For a receiver that is not left open the plan has the requests of the entry points. -/
theorem plan_typed_ok_iff {variant : Variant} :
    (∃ plan, (Member.method m : Member _).plan T R variant = .ok plan) ↔
      T = declaring ∧ (R = .any ∨ R = m.result) := by
  rw [m.plan_ok_iff, or_iff_right hT]

theorem decided_compileTyped :
    Decided "method" (fun m => m.compileTyped T R) m
      ((Member.method m : Member _).plan T R .byValue)
      (∃ entry, m.entry? T R = some entry) (T = declaring ∧ (R = .any ∨ R = m.result)) := by
  refine .of_agree (m.plan_typed_ok_iff hT R) m.exists_entry?_iff ?_ ?_
  · intro refusal h
    rw [compileTyped, planSlots_of_refusal h]
  · rintro plan h ⟨entry, hentry⟩
    exact ⟨_, by rw [compileTyped, planSlots_of_plan h, hentry]⟩

theorem decided_compileByRefTyped :
    Decided "method" (fun m => m.compileByRefTyped T R) m
      ((Member.method m : Member _).plan T R .byRef)
      (∃ entry, m.entry? T R = some entry) (T = declaring ∧ (R = .any ∨ R = m.result)) := by
  refine .of_agree (m.plan_typed_ok_iff hT R) m.exists_entry?_iff ?_ ?_
  · intro refusal h
    rw [compileByRefTyped, planSlots_of_refusal h]
  · rintro plan h ⟨entry, hentry⟩
    exact ⟨_, by rw [compileByRefTyped, planSlots_of_plan h, hentry]⟩

end Method

/-! ### Properties -/

/-- What is given under a condition is there if the condition holds and it is there then. -/
theorem isSome_given_iff {α : Type} {P : Prop} [Decidable P] {given : P → Option α} :
    (if h : P then given h else none).isSome ↔ ∃ h, (given h).isSome := by
  by_cases h : P
  · simp [h]
  · simp [h]

namespace Property

variable {declaring : TypeTag} {μ ν : Type} (p : Property declaring ν) (m : Memory μ ν)

/-! #### The entry points of the accessors -/

theorem readErased?_isSome_iff : (p.readErased? m).isSome ↔ p.read?.isSome := by
  rw [readErased?, readWidened?, Option.isSome_map, Option.isSome_map]

theorem writeErased?_isSome_iff : (p.writeErased? m).isSome ↔ p.write?.isSome := by
  rw [writeErased?, writeWidened?, Option.isSome_map, Option.isSome_map]

theorem readTyped?_isSome_iff {T V : TypeTag} :
    (p.readTyped? T V).isSome ↔ p.read?.isSome ∧ T = declaring ∧ V = p.type := by
  rw [readTyped?, isSome_given_iff]
  constructor
  · rintro ⟨⟨rfl, rfl⟩, hread⟩
    exact ⟨hread, rfl, rfl⟩
  · rintro ⟨hread, rfl, rfl⟩
    exact ⟨⟨rfl, rfl⟩, hread⟩

theorem readWidenedAt?_isSome_iff {T : TypeTag} :
    (p.readWidenedAt? m T).isSome ↔ p.read?.isSome ∧ T = declaring := by
  have hwidened : (p.readWidened? m).isSome ↔ p.read?.isSome := by
    rw [readWidened?, Option.isSome_map]
  rw [readWidenedAt?, isSome_given_iff, ← hwidened]
  constructor
  · rintro ⟨rfl, hread⟩
    exact ⟨hread, rfl⟩
  · rintro ⟨hread, rfl⟩
    exact ⟨rfl, hread⟩

/-- The typed way to read goes first, and the widened one is for boxed values. -/
theorem exists_readEntry?_iff {T V : TypeTag} :
    (∃ read, p.readEntry? m T V = some read) ↔
      p.read?.isSome ∧ T = declaring ∧ (V = .any ∨ V = p.type) := by
  have htyped := p.readTyped?_isSome_iff (T := T) (V := V)
  have hwidened := p.readWidenedAt?_isSome_iff m (T := T)
  unfold readEntry?
  cases hread : p.readTyped? T V with
  | some read =>
    rw [hread] at htyped
    obtain ⟨hp, hT, hV⟩ := htyped.mp rfl
    exact iff_of_true ⟨_, rfl⟩ ⟨hp, hT, .inr hV⟩
  | none =>
    by_cases hany : V = .any
    · subst hany
      simp only [dif_pos]
      rw [← Option.isSome_iff_exists, hwidened]
      simp
    · have hforeign : ¬ (p.read?.isSome ∧ T = declaring ∧ V = p.type) := by
        rw [← htyped, hread]
        simp
      simp only [dif_neg hany]
      refine iff_of_false (by simp) ?_
      rintro ⟨hp, hT, hV⟩
      exact hforeign ⟨hp, hT, hV.resolve_left hany⟩

theorem writeTyped?_isSome_iff {T V : TypeTag} :
    (p.writeTyped? T V).isSome ↔ p.write?.isSome ∧ T = declaring ∧ V = p.type := by
  rw [writeTyped?, isSome_given_iff]
  constructor
  · rintro ⟨⟨rfl, rfl⟩, hwrite⟩
    exact ⟨hwrite, rfl, rfl⟩
  · rintro ⟨hwrite, rfl, rfl⟩
    exact ⟨⟨rfl, rfl⟩, hwrite⟩

theorem writeWidenedAt?_isSome_iff {T : TypeTag} :
    (p.writeWidenedAt? m T).isSome ↔ p.write?.isSome ∧ T = declaring := by
  have hwidened : (p.writeWidened? m).isSome ↔ p.write?.isSome := by
    rw [writeWidened?, Option.isSome_map]
  rw [writeWidenedAt?, isSome_given_iff, ← hwidened]
  constructor
  · rintro ⟨rfl, hwrite⟩
    exact ⟨hwrite, rfl⟩
  · rintro ⟨hwrite, rfl⟩
    exact ⟨rfl, hwrite⟩

/-- A setter has a typed entry point, and a widened one that is meant for boxed values. -/
theorem exists_write_iff {T V : TypeTag} :
    ((p.writeTyped? T V).isSome ∨ V = .any ∧ (p.writeWidenedAt? m T).isSome) ↔
      p.write?.isSome ∧ T = declaring ∧ (V = .any ∨ V = p.type) := by
  rw [p.writeTyped?_isSome_iff, p.writeWidenedAt?_isSome_iff m]
  constructor
  · rintro (⟨hp, hT, hV⟩ | ⟨hV, hp, hT⟩)
    · exact ⟨hp, hT, .inr hV⟩
    · exact ⟨hp, hT, .inl hV⟩
  · rintro ⟨hp, hT, hV | hV⟩
    · exact .inr ⟨hV, hp, hT⟩
    · exact .inl ⟨hp, hT, hV⟩

/-! #### The plans of the accessors -/

theorem plan_getter_ok_iff {I V : TypeTag} {variant : Variant} :
    (∃ plan, (Member.getter p).plan I V variant = .ok plan) ↔
      p.read?.isSome ∧ (I = .object ∨ I = declaring) ∧ (V = .any ∨ V = p.type) := by
  have hkind : (Member.getter p).kind ≠ .setter := by simp [Member.kind]
  have hcheck : (Member.getter p).checkAccessor = .ok () ↔ p.read?.isSome := by
    rw [Member.checkAccessor]
    split <;> simp_all
  rw [Member.plan_ok_iff, hcheck, Member.receiverAccess_ok_iff rfl, Member.exchange_ok_iff hkind,
    Member.resultHandling_ok_iff]
  rfl

theorem plan_setter_ok_iff {I V : TypeTag} {variant : Variant} :
    (∃ plan, (Member.setter p).plan I V variant = .ok plan) ↔
      p.write?.isSome ∧ (I = .object ∨ I = declaring) ∧ (V = .any ∨ V = p.type) := by
  have hcheck : (Member.setter p).checkAccessor = .ok () ↔ p.write?.isSome := by
    rw [Member.checkAccessor]
    split <;> simp_all
  have hexchange : (∃ exchanged, (Member.setter p).exchange V variant = .ok exchanged) ↔
      V = .any ∨ V = p.type := by
    refine Iff.trans ?_ (Member.setter p).assignedValue_ok_iff
    rw [Member.exchange]
    split <;> simp_all
  rw [Member.plan_ok_iff, hcheck, Member.receiverAccess_ok_iff rfl, hexchange]

/-! #### The four ways to compile an accessor -/

theorem decided_compileGetterOn :
    Decided "property" (Property.compileGetterOn m) p
      ((Member.getter p).plan .object .any .byValue) (p.readErased? m).isSome p.read?.isSome := by
  refine .of_agree ?_ (p.readErased?_isSome_iff m) ?_ ?_
  · simp [p.plan_getter_ok_iff]
  · intro refusal h
    rw [compileGetterOn, h]
  · intro plan h hentry
    obtain ⟨read, hread⟩ := Option.isSome_iff_exists.mp hentry
    rw [compileGetterOn, h]
    simp only [hread]
    exact ⟨_, rfl⟩

theorem decided_compileSetterOn :
    Decided "property" (Property.compileSetterOn m) p
      ((Member.setter p).plan .object .any .byValue) (p.writeErased? m).isSome p.write?.isSome := by
  refine .of_agree ?_ (p.writeErased?_isSome_iff m) ?_ ?_
  · simp [p.plan_setter_ok_iff]
  · intro refusal h
    rw [compileSetterOn, h]
  · intro plan h hentry
    obtain ⟨write, hwrite⟩ := Option.isSome_iff_exists.mp hentry
    rw [compileSetterOn, h]
    simp only [hwrite]
    exact ⟨_, rfl⟩

variable {T : TypeTag} (hT : T ≠ .object) (V : TypeTag)

include hT

theorem decided_compileGetterTypedOn :
    Decided "property" (fun p => p.compileGetterTypedOn m T V) p
      ((Member.getter p).plan T V .byValue) (∃ read, p.readEntry? m T V = some read)
      (p.read?.isSome ∧ T = declaring ∧ (V = .any ∨ V = p.type)) := by
  refine .of_agree ?_ (p.exists_readEntry?_iff m) ?_ ?_
  · rw [p.plan_getter_ok_iff, or_iff_right hT]
  · intro refusal h
    rw [compileGetterTypedOn, h]
  · rintro plan h ⟨read, hread⟩
    rw [compileGetterTypedOn, h]
    simp only [hread]
    exact ⟨_, rfl⟩

theorem decided_compileSetterTypedOn :
    Decided "property" (fun p => p.compileSetterTypedOn m T V) p
      ((Member.setter p).plan T V .byValue)
      ((p.writeTyped? T V).isSome ∨ V = .any ∧ (p.writeWidenedAt? m T).isSome)
      (p.write?.isSome ∧ T = declaring ∧ (V = .any ∨ V = p.type)) := by
  refine .of_agree ?_ (p.exists_write_iff m) ?_ ?_
  · rw [p.plan_setter_ok_iff, or_iff_right hT]
  · intro refusal h
    rw [compileSetterTypedOn, h]
  · intro plan h hentry
    rw [compileSetterTypedOn, h]
    simp only
    cases htyped : p.writeTyped? T V with
    | some write => exact ⟨_, rfl⟩
    | none =>
      rw [htyped] at hentry
      have hwidened := (hentry.resolve_left (by simp)).2
      obtain ⟨write, hwrite⟩ := Option.isSome_iff_exists.mp hwidened
      simp only [hwrite]
      exact ⟨_, rfl⟩

end Property

/-! ### All members -/

/-- **Compiling succeeds just on the admissible requests.**  A constructor compiles for a boxed
instance and for the constructed type.  A method compiles for a receiver that is left open, and for
the declaring type with a result that is boxed or of the declared type, which is `unit` if there is
none; by value and with write-back alike.  An accessor compiles if it exists, under the same
conditions on the receiver and the value.  Whatever else is asked for is refused, and of methods and
accessors it is the plan who refuses it.

A receiver of unknown type is asked for by the functions that leave it open, and by no type. -/
theorem compiles_iff_admissible {declaring : TypeTag} (c : Constructor declaring)
    (m : Method declaring) (p : Property declaring) {T : TypeTag} (hT : T ≠ .object)
    (R : TypeTag) :
    (Admits "constructor" Constructor.compile c True ∧
      Admits "constructor" (fun c => c.compileTyped T) c (T = declaring)) ∧
    (Decided "method" Method.compile m ((Member.method m : Member _).plan .object .any .byValue)
        True True ∧
      Decided "method" Method.compileByRef m ((Member.method m : Member _).plan .object .any .byRef)
        True True ∧
      Decided "method" (fun m => m.compileTyped T R) m
        ((Member.method m : Member _).plan T R .byValue)
        (∃ entry, m.entry? T R = some entry) (T = declaring ∧ (R = .any ∨ R = m.result)) ∧
      Decided "method" (fun m => m.compileByRefTyped T R) m
        ((Member.method m : Member _).plan T R .byRef)
        (∃ entry, m.entry? T R = some entry) (T = declaring ∧ (R = .any ∨ R = m.result))) ∧
    (Decided "property" Property.compileGetter p
        ((Member.getter p).plan .object .any .byValue) (p.readErased? .plain).isSome
        p.read?.isSome ∧
      Decided "property" (fun p => p.compileGetterTyped T R) p
        ((Member.getter p).plan T R .byValue) (∃ read, p.readEntry? .plain T R = some read)
        (p.read?.isSome ∧ T = declaring ∧ (R = .any ∨ R = p.type))) ∧
    (Decided "property" Property.compileSetter p
        ((Member.setter p).plan .object .any .byValue) (p.writeErased? .plain).isSome
        p.write?.isSome ∧
      Decided "property" (fun p => p.compileSetterTyped T R) p
        ((Member.setter p).plan T R .byValue)
        ((p.writeTyped? T R).isSome ∨ R = .any ∧ (p.writeWidenedAt? .plain T).isSome)
        (p.write?.isSome ∧ T = declaring ∧ (R = .any ∨ R = p.type))) :=
  ⟨⟨.of_iff c.compile_ok_iff, .of_iff c.compileTyped_ok_iff⟩,
    ⟨m.decided_compile, m.decided_compileByRef, m.decided_compileTyped hT R,
      m.decided_compileByRefTyped hT R⟩,
    ⟨p.decided_compileGetterOn .plain, p.decided_compileGetterTypedOn .plain hT R⟩,
    ⟨p.decided_compileSetterOn .plain, p.decided_compileSetterTypedOn .plain hT R⟩⟩

/-- A method without a result compiles for a `unit` result and for no text; the label of a subject
is read as a text. -/
theorem compiles_iff_admissible_subject :
    (∃ d, compiled "method" (fun m => m.compileTyped Subject.type .unit)
      (some Subject.methods[2]) = .ok d) ∧
    (¬ ∃ d, compiled "method" (fun m => m.compileTyped Subject.type .text)
      (some Subject.methods[2]) = .ok d) ∧
    (∃ d, compiled "property" (fun p => p.compileGetterTyped Subject.type .text)
      (some Subject.labelProperty) = .ok d) := by
  have hT : Subject.type ≠ .object := by decide
  have hunit := compiles_iff_admissible Subject.constructor Subject.methods[2]
    Subject.labelProperty hT .unit
  have htext := compiles_iff_admissible Subject.constructor Subject.methods[2]
    Subject.labelProperty hT .text
  obtain ⟨-, ⟨-, -, hreset, -⟩, -⟩ := hunit
  obtain ⟨-, ⟨-, -, hreset', -⟩, ⟨-, hlabel⟩, -⟩ := htext
  refine ⟨hreset.accepted_iff.mpr ⟨rfl, .inr rfl⟩, ?_, hlabel.accepted_iff.mpr ⟨rfl, rfl, .inr rfl⟩⟩
  rw [hreset'.accepted_iff]
  rintro ⟨-, hR | hR⟩
  · exact absurd hR (by decide)
  · exact absurd hR (by decide)

end LateBinding
