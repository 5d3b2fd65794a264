import LateBinding.Proofs.Admission
import LateBinding.Proofs.Exposure
import LateBinding.Proofs.Agreement

/-!
# Classification: a query for a delegate says why it failed

A query looks a member up, plans its calls, lowers its arguments and takes an entry point.  The
lookup goes first, so the outcome is told by the members that match the query, and by what the one
of them admits if there is just one.

* `MethodQuery.Matches`, `Property.Named` — what a query asks of a method and of a property;
* `TypeDef.Classified` — what the outcome of a query says about the candidates;
* `TypeDef.classified_compileFound` — a lookup followed by compiling says that;
* `Method.compileTyped_ok_iff` and its siblings — which types a member admits, and
  `Method.plan_of_compileTyped` and its siblings — the plan that a delegate comes with;
* `outcome_classified` — the ten kinds of queries.
-/

namespace LateBinding

/-! ### What a query asks for -/

/-- The method has the name that is asked for, may be bound to and, if a signature is given, has
exactly these parameters. -/
def MethodQuery.Matches {declaring : TypeTag} (q : MethodQuery) (m : Method declaring) : Prop :=
  q.rules.nameMatches m.name q.name ∧ q.rules.admits m.visibility ∧
    ∀ signature ∈ q.signature, m.formals = signature

theorem MethodQuery.selects_iff_matches {declaring : TypeTag} (q : MethodQuery)
    (m : Method declaring) : q.selects m ↔ q.Matches m := by
  rw [selects, reaches, Bool.and_eq_true, Bool.and_eq_true, and_assoc, Matches]
  refine and_congr_right fun _ => and_congr_right fun _ => ?_
  cases q.signature with
  | none => simp
  | some signature => simp

instance {declaring : TypeTag} (q : MethodQuery) (m : Method declaring) :
    Decidable (q.Matches m) := decidable_of_iff _ (q.selects_iff_matches m)

/-- The property is an exposed one of this name. -/
def Property.Named {declaring : TypeTag} (name : String) (p : Property declaring) : Prop :=
  p.name = name ∧ p.visibility = .exposed

instance {declaring : TypeTag} (name : String) (p : Property declaring) :
    Decidable (p.Named name) := inferInstanceAs (Decidable (_ ∧ _))

namespace TypeDef

variable (t : TypeDef)

theorem methodCandidates_eq (q : MethodQuery) :
    t.methodCandidates q = t.methods.filter fun m => q.Matches m := by
  refine List.filter_congr fun m _ => ?_
  rw [Bool.eq_iff_iff, decide_eq_true_iff]
  exact q.selects_iff_matches m

theorem reachesProperty_iff_named (name : String) (p : Property t.type) :
    t.reachesProperty .standard name p ↔ p.Named name := by
  rw [reachesProperty, Bool.and_eq_true, Property.Named]
  refine and_congr decide_eq_true_iff ?_
  cases p.visibility with
  | exposed => exact iff_of_true rfl rfl
  | hidden => exact iff_of_false (by decide) (by decide)

theorem findProperty_eq (name : String) :
    t.findProperty name = t.single name (t.properties.filter fun p => p.Named name) := by
  refine congrArg (t.single name) (List.filter_congr fun p _ => ?_)
  rw [Bool.eq_iff_iff, decide_eq_true_iff]
  exact t.reachesProperty_iff_named name p

/-! ### What the outcome says -/

variable {α β : Type}

/-- What the outcome of a query says about the members that match it, the `candidates`.  A member
`Admits` the types asked for or does not, and the delegate `d` of `x` comes `Planned x d`. -/
structure Classified (t : TypeDef) (member : String) (candidates : List α) (Admits : α → Prop)
    (compile : α → Except Refusal β) (Planned : α → β → Prop)
    (outcome : Except DelegateError β) : Prop where
  /-- No member is found, whatever types are asked for, unless there is a single candidate. -/
  notFound_iff : (∃ typeName name failure,
    outcome = .error (.memberNotFound typeName name failure)) ↔ candidates.length ≠ 1
  noMatch : candidates.length = 0 → ∃ failure,
    outcome = .error (.memberNotFound t.name member failure) ∧ failure.message = "no match"
  ambiguous : 2 ≤ candidates.length → ∃ failure,
    outcome = .error (.memberNotFound t.name member failure) ∧
      failure.message = "ambiguous, " ++ toString candidates.length ++ " candidates"
  /-- The single candidate is refused for what it does not admit. -/
  invalid_iff : (∃ refusal, outcome = .error (.invalidMember refusal)) ↔
    ∃ x, candidates = [x] ∧ ¬ Admits x
  delegate_iff : (∃ d, outcome = .ok d) ↔ ∃ x, candidates = [x] ∧ Admits x
  /-- The delegate is one of the single candidate. -/
  of_ok : ∀ d, outcome = .ok d → ∃ x, candidates = [x] ∧ compile x = .ok d ∧ Planned x d
  no_mismatch : ∀ expected got, outcome ≠ .error (.typeMismatch expected got)

section Classified

variable {t} {member : String} {candidates : List α} {Admits : α → Prop}
  {compile : α → Except Refusal β} {Planned : α → β → Prop} {outcome : Except DelegateError β}

/-- Without a single candidate the query has failed, and nothing was compiled. -/
theorem classified_notFound (hne : candidates.length ≠ 1) {failure : LookupFailure}
    (houtcome : outcome = .error (.memberNotFound t.name member failure))
    (hnone : candidates.length = 0 → failure.message = "no match")
    (hseveral : 2 ≤ candidates.length →
      failure.message = "ambiguous, " ++ toString candidates.length ++ " candidates") :
    t.Classified member candidates Admits compile Planned outcome := by
  subst houtcome
  have hsingle : ∀ x, candidates ≠ [x] := by
    rintro x rfl
    exact hne rfl
  refine ⟨iff_of_true ⟨_, _, _, rfl⟩ hne, fun h => ⟨_, rfl, hnone h⟩,
    fun h => ⟨_, rfl, hseveral h⟩, iff_of_false nofun ?_, iff_of_false nofun ?_, nofun, nofun⟩
  · rintro ⟨x, hx, -⟩
    exact hsingle x hx
  · rintro ⟨x, hx, -⟩
    exact hsingle x hx

/-- The single candidate is compiled or refused. -/
theorem classified_found {x : α} (hadmits : (∃ d, compile x = .ok d) ↔ Admits x)
    (hplanned : ∀ d, compile x = .ok d → Planned x d) :
    t.Classified member [x] Admits compile Planned ((compile x).mapError .invalidMember) := by
  have hone : ∀ P : α → Prop, (∃ y, [x] = [y] ∧ P y) ↔ P x := by
    intro P
    constructor
    · rintro ⟨y, hy, hP⟩
      cases hy
      exact hP
    · exact fun hP => ⟨x, rfl, hP⟩
  cases hcompile : compile x with
  | error refusal =>
    have hno : ¬ Admits x := by
      rw [← hadmits, hcompile]
      exact nofun
    exact ⟨iff_of_false nofun (· rfl), nofun, by simp,
      iff_of_true ⟨refusal, rfl⟩ ((hone _).mpr hno),
      iff_of_false nofun (mt (hone _).mp hno), nofun, nofun⟩
  | ok d =>
    have hyes : Admits x := hadmits.mp ⟨d, hcompile⟩
    refine ⟨iff_of_false nofun (· rfl), nofun, by simp, iff_of_false nofun ?_,
      iff_of_true ⟨d, rfl⟩ ((hone _).mpr hyes), ?_, nofun⟩
    · exact fun h => (hone _).mp h hyes
    · intro d' hd'
      cases hd'
      exact ⟨x, rfl, hcompile, hplanned d hcompile⟩

/-- **The lookup goes first**: what is compiled is the single candidate, whatever the types. -/
theorem classified_compileFound (hadmits : ∀ x, (∃ d, compile x = .ok d) ↔ Admits x)
    (hplanned : ∀ x d, compile x = .ok d → Planned x d) :
    t.Classified member candidates Admits compile Planned
      (compileFound (t.single member candidates) compile) := by
  match candidates with
  | [] => exact classified_notFound nofun rfl (fun _ => rfl) nofun
  | [x] => exact classified_found (hadmits x) (hplanned x)
  | x :: y :: rest => exact classified_notFound (by simp) rfl nofun (fun _ => rfl)

end Classified

end TypeDef

/-! ### Delegates and their plans -/

theorem Member.plan_of_planSlots {declaring : TypeTag} {member : Member declaring} {I R : TypeTag}
    {variant : Variant} {plan : Plan} {slots : List Slot}
    (h : member.planSlots I R variant = .ok (plan, slots)) :
    member.plan I R variant = .ok plan := by
  rw [planSlots] at h
  split at h
  · cases h
  rename_i hplan
  split at h
  · cases h
  cases h
  exact hplan

namespace Constructor

variable {declaring : TypeTag} {c : Constructor declaring}

theorem plan_of_compile {d : ConstructorDelegate Value} (h : c.compile = .ok d) :
    (Member.constructor c : Member _).plan .any .any .byValue = .ok d.plan := by
  rw [compile, compileBy] at h
  split at h
  · cases h
  rename_i hplan
  cases h
  exact Member.plan_of_planSlots hplan

theorem plan_of_compileTyped {T : TypeTag} {d : ConstructorDelegate T.Carrier}
    (h : c.compileTyped T = .ok d) :
    (Member.constructor c : Member _).plan .any T .byValue = .ok d.plan := by
  rw [compileTyped] at h
  split at h
  · cases h
  rename_i hplan
  split at h
  · cases h
  cases h
  exact Member.plan_of_planSlots hplan

end Constructor

namespace Method

variable {declaring : TypeTag} {m : Method declaring} {T R : TypeTag}

theorem plan_of_compile {d : MethodDelegate Instance Value} (h : m.compile = .ok d) :
    (Member.method m : Member _).plan .object .any .byValue = .ok d.plan := by
  rw [compile] at h
  split at h
  · cases h
  rename_i hplan
  cases h
  exact Member.plan_of_planSlots hplan

theorem plan_of_compileTyped {d : MethodDelegate T.Carrier R.Carrier}
    (h : m.compileTyped T R = .ok d) :
    (Member.method m : Member _).plan T R .byValue = .ok d.plan ∧
      ∃ entry, m.entry? T R = some entry := by
  rw [compileTyped] at h
  split at h
  · cases h
  rename_i hplan
  split at h
  · cases h
  rename_i entry hentry
  cases h
  exact ⟨Member.plan_of_planSlots hplan, entry, hentry⟩

theorem plan_of_compileByRefTyped {d : RefMethodDelegate T.Carrier R.Carrier}
    (h : m.compileByRefTyped T R = .ok d) :
    (Member.method m : Member _).plan T R .byRef = .ok d.plan ∧
      ∃ entry, m.entry? T R = some entry := by
  rw [compileByRefTyped] at h
  split at h
  · cases h
  rename_i hplan
  split at h
  · cases h
  rename_i entry hentry
  cases h
  exact ⟨Member.plan_of_planSlots hplan, entry, hentry⟩

variable (m)

theorem compile_ok_iff : (∃ d, m.compile = .ok d) ↔ True := by
  obtain ⟨plan, hd⟩ := m.exists_compile
  exact iff_of_true ⟨_, hd⟩ trivial

/-- A method is compiled for the declaring type, and for a boxed result or one of the declared
type. -/
theorem compileTyped_ok_iff : (∃ d, m.compileTyped T R = .ok d) ↔
    T = declaring ∧ (R = .any ∨ R = m.result) := by
  constructor
  · rintro ⟨d, hd⟩
    exact m.exists_entry?_iff.mp (plan_of_compileTyped hd).2
  · rintro ⟨rfl, rfl | rfl⟩
    · obtain ⟨plan, hd⟩ := m.exists_compileTyped_any
      exact ⟨_, hd⟩
    · obtain ⟨plan, hd⟩ := m.exists_compileTyped_result
      exact ⟨_, hd⟩

theorem compileByRefTyped_ok_iff : (∃ d, m.compileByRefTyped T R = .ok d) ↔
    T = declaring ∧ (R = .any ∨ R = m.result) := by
  constructor
  · rintro ⟨d, hd⟩
    exact m.exists_entry?_iff.mp (plan_of_compileByRefTyped hd).2
  · rintro ⟨rfl, rfl | rfl⟩
    · obtain ⟨plan, hd⟩ := m.exists_compileByRefTyped_any
      exact ⟨_, hd⟩
    · obtain ⟨plan, hd⟩ := m.exists_compileByRefTyped_result
      exact ⟨_, hd⟩

end Method

namespace Property

variable {declaring : TypeTag} {p : Property declaring} {T V : TypeTag}

theorem plan_of_compileGetter {d : GetterDelegate Instance Value} (h : p.compileGetter = .ok d) :
    (Member.getter p).plan .object .any .byValue = .ok d.plan := by
  rw [compileGetter, compileGetterOn] at h
  split at h
  · cases h
  rename_i hplan
  split at h
  · cases h
  cases h
  exact hplan

theorem plan_of_compileGetterTyped {d : GetterDelegate T.Carrier V.Carrier}
    (h : p.compileGetterTyped T V = .ok d) :
    (Member.getter p).plan T V .byValue = .ok d.plan ∧
      ∃ read, p.readEntry? .plain T V = some read := by
  rw [compileGetterTyped, compileGetterTypedOn] at h
  split at h
  · cases h
  rename_i hplan
  split at h
  · cases h
  rename_i read hread
  cases h
  exact ⟨hplan, read, hread⟩

theorem plan_of_compileSetter {d : SetterDelegate Instance Value} (h : p.compileSetter = .ok d) :
    (Member.setter p).plan .object .any .byValue = .ok d.plan := by
  rw [compileSetter, compileSetterOn] at h
  split at h
  · cases h
  rename_i hplan
  split at h
  · cases h
  cases h
  exact hplan

/-- The typed entry point and the widened one both ask for the declaring type. -/
theorem plan_of_compileSetterTyped {d : SetterDelegate T.Carrier V.Carrier}
    (h : p.compileSetterTyped T V = .ok d) :
    (Member.setter p).plan T V .byValue = .ok d.plan ∧ T = declaring := by
  rw [compileSetterTyped, compileSetterTypedOn] at h
  split at h
  · cases h
  rename_i hplan
  split at h
  · rename_i write hwrite
    cases h
    exact ⟨hplan, (p.writeTyped?_isSome_iff.mp (Option.isSome_iff_exists.mpr ⟨write, hwrite⟩)).2.1⟩
  · split at h
    · cases h
    rename_i write hwrite
    cases h
    have hisSome := Option.isSome_iff_exists.mpr ⟨write, hwrite⟩
    exact ⟨hplan, ((p.writeWidenedAt?_isSome_iff .plain).mp hisSome).2⟩

variable (p)

theorem compileGetter_ok_iff : (∃ d, p.compileGetter = .ok d) ↔ p.read?.isSome :=
  compiled_ok_iff.symm.trans (p.decided_compileGetterOn .plain).accepted_iff

theorem compileSetter_ok_iff : (∃ d, p.compileSetter = .ok d) ↔ p.write?.isSome :=
  compiled_ok_iff.symm.trans (p.decided_compileSetterOn .plain).accepted_iff

/-- A read accessor is compiled, if there is one, for the declaring type, and for a boxed value or
one of the property's type. -/
theorem compileGetterTyped_ok_iff : (∃ d, p.compileGetterTyped T V = .ok d) ↔
    p.read?.isSome ∧ T = declaring ∧ (V = .any ∨ V = p.type) := by
  constructor
  · rintro ⟨d, hd⟩
    exact (p.exists_readEntry?_iff .plain).mp (plan_of_compileGetterTyped hd).2
  · rintro ⟨hread, rfl, hV⟩
    obtain ⟨load, hp⟩ := Option.isSome_iff_exists.mp hread
    obtain ⟨d, hd, -⟩ := exists_compileGetterTyped hp hV
    exact ⟨d, hd⟩

/-- A write accessor likewise. -/
theorem compileSetterTyped_ok_iff : (∃ d, p.compileSetterTyped T V = .ok d) ↔
    p.write?.isSome ∧ T = declaring ∧ (V = .any ∨ V = p.type) := by
  constructor
  · rintro ⟨d, hd⟩
    obtain ⟨hplan, hT⟩ := plan_of_compileSetterTyped hd
    obtain ⟨hwrite, -, hV⟩ := p.plan_setter_ok_iff.mp ⟨d.plan, hplan⟩
    exact ⟨hwrite, hT, hV⟩
  · rintro ⟨hwrite, rfl, rfl | rfl⟩
    · obtain ⟨store, hp⟩ := Option.isSome_iff_exists.mp hwrite
      obtain ⟨d, hd, -⟩ := assigns_compileSetterTyped_any hp
      exact ⟨d, hd⟩
    · obtain ⟨store, hp⟩ := Option.isSome_iff_exists.mp hwrite
      obtain ⟨d, hd, -⟩ := exists_compileSetterTyped_type hp
      exact ⟨d, hd⟩

end Property

/-! ### The ten kinds of queries -/

/-- **The outcome of a query for a delegate tells its cause.**  No member is found just when the
number of members that match the query is not one, whatever types are asked for; the reason is that
there is no match, or how many candidates there are.  The one member that matches is refused as
invalid just when it lacks the accessor or does not admit the types asked for; otherwise the outcome
is a delegate of that member, with its plan.  No query ends in a mismatch of types. -/
theorem outcome_classified (t : TypeDef) (T R : TypeTag) :
    (∀ q : MethodQuery,
      t.Classified q.name (t.methods.filter fun m => q.Matches m) (fun _ => True) Method.compile
        (fun m d => (Member.method m : Member _).plan .object .any .byValue = .ok d.plan)
        (t.methodDelegate q) ∧
      t.Classified q.name (t.methods.filter fun m => q.Matches m) (fun _ => T = t.type)
        (fun m => m.compileTyped T .any)
        (fun m d => (Member.method m : Member _).plan T .any .byValue = .ok d.plan)
        (t.methodDelegateFor T q) ∧
      t.Classified q.name (t.methods.filter fun m => q.Matches m)
        (fun m => T = t.type ∧ (R = .any ∨ R = m.result)) (fun m => m.compileTyped T R)
        (fun m d => (Member.method m : Member _).plan T R .byValue = .ok d.plan)
        (t.methodDelegateTyped T R q) ∧
      t.Classified q.name (t.methods.filter fun m => q.Matches m)
        (fun m => T = t.type ∧ (R = .any ∨ R = m.result)) (fun m => m.compileByRefTyped T R)
        (fun m d => (Member.method m : Member _).plan T R .byRef = .ok d.plan)
        (t.methodDelegateByRef T R q)) ∧
    (∀ signature : List Formal,
      t.Classified "new" (t.constructors.filter fun c => c.formals = signature) (fun _ => True)
        Constructor.compile
        (fun c d => (Member.constructor c : Member _).plan .any .any .byValue = .ok d.plan)
        (t.constructorDelegate signature) ∧
      t.Classified "new" (t.constructors.filter fun c => c.formals = signature)
        (fun _ => T = t.type) (fun c => c.compileTyped T)
        (fun c d => (Member.constructor c : Member _).plan .any T .byValue = .ok d.plan)
        (t.constructorDelegateTyped T signature)) ∧
    (∀ name : String,
      t.Classified name (t.properties.filter fun p => p.Named name) (fun p => p.read?.isSome)
        Property.compileGetter
        (fun p d => (Member.getter p).plan .object .any .byValue = .ok d.plan)
        (t.getterDelegate name) ∧
      t.Classified name (t.properties.filter fun p => p.Named name)
        (fun p => p.read?.isSome ∧ T = t.type ∧ (R = .any ∨ R = p.type))
        (fun p => p.compileGetterTyped T R)
        (fun p d => (Member.getter p).plan T R .byValue = .ok d.plan)
        (t.getterDelegateTyped T R name) ∧
      t.Classified name (t.properties.filter fun p => p.Named name) (fun p => p.write?.isSome)
        Property.compileSetter
        (fun p d => (Member.setter p).plan .object .any .byValue = .ok d.plan)
        (t.setterDelegate name) ∧
      t.Classified name (t.properties.filter fun p => p.Named name)
        (fun p => p.write?.isSome ∧ T = t.type ∧ (R = .any ∨ R = p.type))
        (fun p => p.compileSetterTyped T R)
        (fun p d => (Member.setter p).plan T R .byValue = .ok d.plan)
        (t.setterDelegateTyped T R name)) := by
  refine ⟨fun q => ?_, fun signature => ?_, fun name => ?_⟩
  · have hboxed : ∀ m : Method t.type, (∃ d, m.compileTyped T .any = .ok d) ↔ T = t.type := by
      intro m
      rw [m.compileTyped_ok_iff, eq_self_iff_true, true_or, and_true]
    simp only [← t.methodCandidates_eq]
    exact ⟨TypeDef.classified_compileFound (·.compile_ok_iff) fun _ _ => Method.plan_of_compile,
      TypeDef.classified_compileFound hboxed fun _ _ h => (Method.plan_of_compileTyped h).1,
      TypeDef.classified_compileFound (·.compileTyped_ok_iff)
        fun _ _ h => (Method.plan_of_compileTyped h).1,
      TypeDef.classified_compileFound (·.compileByRefTyped_ok_iff)
        fun _ _ h => (Method.plan_of_compileByRefTyped h).1⟩
  · exact ⟨TypeDef.classified_compileFound (·.compile_ok_iff)
        fun _ _ => Constructor.plan_of_compile,
      TypeDef.classified_compileFound (fun c => c.compileTyped_ok_iff)
        fun _ _ => Constructor.plan_of_compileTyped⟩
  · simp only [TypeDef.getterDelegate, TypeDef.getterDelegateTyped, TypeDef.setterDelegate,
      TypeDef.setterDelegateTyped, t.findProperty_eq]
    exact ⟨TypeDef.classified_compileFound (·.compileGetter_ok_iff)
        fun _ _ => Property.plan_of_compileGetter,
      TypeDef.classified_compileFound (·.compileGetterTyped_ok_iff)
        fun _ _ h => (Property.plan_of_compileGetterTyped h).1,
      TypeDef.classified_compileFound (·.compileSetter_ok_iff)
        fun _ _ => Property.plan_of_compileSetter,
      TypeDef.classified_compileFound (·.compileSetterTyped_ok_iff)
        fun _ _ h => (Property.plan_of_compileSetterTyped h).1⟩

/-- The subject has two methods of this name: it is they who are reported, and not that the receiver
and the result asked for are none of theirs. -/
example : Subject.definition.methodDelegateTyped .bool .char { name := "format" } =
    .error (.memberNotFound "Sample" "format" (.ambiguous 2)) := rfl

end LateBinding
