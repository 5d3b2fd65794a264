import LateBinding.Proofs.Reflection
import LateBinding.Delegate.Query

/-!
# Resolution: late binding through delegates

A late-bound call chooses its member by the run-time types of the arguments, a query for a delegate
by exact parameter types.  Where the former finds a member, the latter finds the same one, and the
delegate answers like the late-bound call.

* `accepts_iff_converts` — a parameter list accepts arguments when their number is right and each
  converts;
* `TypeDef.single_eq_ok_iff`, `filter_eq_singleton_of_imp` — a narrower choice that keeps the one
  candidate is as good as a wider one;
* `TypeDef.findMethod_of_resolveMethod`, `TypeDef.findConstructor_of_resolveConstructor` — from
  resolution by arguments to lookup by signature;
* `TypeDef.invokeMethod_of_ok`, `TypeDef.create_of_ok` — the call of what was resolved, and with
  `TypeDef.invokeMethod_of_error`, `TypeDef.create_of_error` the refusal where nothing was;
* `lateBound_eq_delegate` — late-bound calls and creations, and the delegates that stand for them.
-/

namespace LateBinding

/-! ### Acceptance -/

theorem accepts_cons (p : Formal) (ps : List Formal) (arg : Value) (args : List Value) :
    accepts (p :: ps) (arg :: args) = ((arg.coerce p.element).isSome && accepts ps args) :=
  congrArg (· && accepts ps args) (Value.isSome_coerce p.element arg).symm

/-- **A parameter list accepts arguments when their number is right and each of them converts.** -/
theorem accepts_iff_converts {formals : List Formal} :
    ∀ {args : List Value},
      accepts formals args ↔ args.length = formals.length ∧ Converts formals args := by
  induction formals with
  | nil =>
    intro args
    cases args with
    | nil => exact ⟨fun _ => ⟨rfl, nofun⟩, fun _ => rfl⟩
    | cons arg args => exact ⟨nofun, fun h => absurd h.1 nofun⟩
  | cons p ps ih =>
    intro args
    cases args with
    | nil => exact ⟨nofun, fun h => absurd h.1 nofun⟩
    | cons arg args =>
      rw [accepts_cons, Bool.and_eq_true, ih, List.length_cons, List.length_cons]
      constructor
      · rintro ⟨hp, hlen, hrest⟩
        exact ⟨congrArg Nat.succ hlen, .cons hp hrest⟩
      · rintro ⟨hlen, h⟩
        obtain ⟨v, hv⟩ := h.head
        exact ⟨Option.isSome_iff_exists.mpr ⟨v, hv⟩, Nat.succ.inj hlen, h.tail⟩

/-! ### The one candidate -/

/-- The one element that a filter keeps is the one that a narrower filter keeps, if it keeps it. -/
theorem filter_eq_singleton_of_imp {α : Type} {p q : α → Bool} {l : List α} {x : α}
    (h : l.filter p = [x]) (hx : q x) (hqp : ∀ y, q y → p y) : l.filter q = [x] := by
  have hnested : l.filter q = (l.filter p).filter q := by
    rw [List.filter_filter]
    refine List.filter_congr fun y _ => ?_
    cases hy : q y with
    | false => rfl
    | true => rw [hqp y hy, Bool.and_self]
  rw [hnested, h, List.filter_cons_of_pos hx, List.filter_nil]

theorem of_filter_eq_singleton {α : Type} {p : α → Bool} {l : List α} {x : α}
    (h : l.filter p = [x]) : p x := by
  have hx : x ∈ l.filter p := by rw [h]; exact List.mem_singleton_self x
  exact (List.mem_filter.mp hx).2

namespace TypeDef

variable (t : TypeDef)

theorem single_eq_ok_iff {α : Type} {member : String} {candidates : List α} {x : α} :
    t.single member candidates = .ok x ↔ candidates = [x] := by
  match candidates with
  | [] => exact ⟨nofun, nofun⟩
  | [y] =>
    rw [single, Except.ok.injEq]
    exact List.singleton_inj.symm
  | y :: z :: rest => exact ⟨nofun, nofun⟩

theorem single_map {α β : Type} (f : α → β) (member : String) (candidates : List α) :
    t.single member (candidates.map f) = (t.single member candidates).map f := by
  match candidates with
  | [] => rfl
  | [_] => rfl
  | _ :: _ :: rest =>
    simp only [List.map_cons, single, List.length_cons, List.length_map]
    rfl

variable {t}

/-! ### From arguments to signatures -/

theorem accepts_of_resolveMethod {name : String} {args : List Value} {m : Method t.type}
    (h : t.resolveMethod name args = .ok m) : accepts m.formals args := by
  have hm := of_filter_eq_singleton (t.single_eq_ok_iff.mp h)
  rw [Bool.and_eq_true] at hm
  exact hm.2

/-- **The method that arguments resolve to is the one that its signature finds.**  A homonym with
the same signature would accept the same arguments. -/
theorem findMethod_of_resolveMethod {name : String} {args : List Value} {m : Method t.type}
    (h : t.resolveMethod name args = .ok m) :
    t.findMethod { name, signature := some m.formals } = .ok m := by
  have hone := t.single_eq_ok_iff.mp h
  have hm := of_filter_eq_singleton hone
  rw [Bool.and_eq_true] at hm
  obtain ⟨hreaches, haccepts⟩ := hm
  -- to ask for the signature is to ask for more than that the arguments are accepted
  refine t.single_eq_ok_iff.mpr (filter_eq_singleton_of_imp hone ?_ ?_)
  · exact Bool.and_eq_true_iff.mpr ⟨hreaches, decide_eq_true rfl⟩
  · intro m' hm'
    obtain ⟨hreaches', hformals⟩ := Bool.and_eq_true_iff.mp hm'
    have hsame : m'.formals = m.formals := of_decide_eq_true hformals
    refine Bool.and_eq_true_iff.mpr ⟨hreaches', ?_⟩
    rw [hsame]
    exact haccepts

theorem accepts_of_resolveConstructor {args : List Value} {c : Constructor t.type}
    (h : t.resolveConstructor args = .ok c) : accepts c.formals args := by
  have hc := of_filter_eq_singleton (t.single_eq_ok_iff.mp h)
  exact hc

/-- **The constructor that arguments resolve to is the one that its signature finds.** -/
theorem findConstructor_of_resolveConstructor {args : List Value} {c : Constructor t.type}
    (h : t.resolveConstructor args = .ok c) : t.findConstructor c.formals = .ok c := by
  have hone := t.single_eq_ok_iff.mp h
  have haccepts := accepts_of_resolveConstructor h
  refine t.single_eq_ok_iff.mpr (filter_eq_singleton_of_imp hone (decide_eq_true rfl) ?_)
  intro c' hc'
  have hsame : c'.formals = c.formals := of_decide_eq_true hc'
  rw [hsame]
  exact haccepts

/-! ### Calls of what was resolved -/

theorem invokeMethod_of_ok {name : String} {args : List Value} {m : Method t.type}
    (h : t.resolveMethod name args = .ok m) (i : Instance) :
    t.invokeMethod name i args = m.invoke i args := by
  rw [invokeMethod, h]

theorem invokeMethod_of_error {name : String} {args : List Value} {e : BindError}
    (h : t.resolveMethod name args = .error e) (i : Instance) :
    t.invokeMethod name i args = .refused i e := by
  rw [invokeMethod, h]

theorem create_of_ok {args : List Value} {c : Constructor t.type}
    (h : t.resolveConstructor args = .ok c) : t.create args = c.invoke args := by
  rw [create, h]

theorem create_of_error {args : List Value} {e : BindError}
    (h : t.resolveConstructor args = .error e) : t.create args = .error (.error e) := by
  rw [create, h]

theorem compileFound_eq_ok {α β : Type} {found : Except BindError α}
    {compile : α → Except Refusal β} {member : α} {d : β} (hfound : found = .ok member)
    (hcompile : compile member = .ok d) : compileFound found compile = .ok d := by
  rw [hfound]
  simp only [compileFound, hcompile]
  rfl

end TypeDef

/-! ### Late-bound calls -/

/-- On arguments that a method accepts its untyped delegate answers like a reflective call, whatever
the receiver. -/
theorem Method.callFramed_of_accepts {declaring : TypeTag} (m : Method declaring) (i : Instance)
    {args : List Value} (h : accepts m.formals args) :
    callFramed (m.slots .byValue) m.erased i args = (m.invoke i args).mapError .ofBind := by
  obtain ⟨hlen, hargs⟩ := accepts_iff_converts.mp h
  by_cases hi : i.1 = declaring
  · obtain ⟨T, s⟩ := i
    obtain rfl : T = declaring := hi
    exact (m.invoke_eq_callFramed s hlen).symm
  · exact m.callFramed_foreign_of_converts hi hargs

/-- **A late-bound call is a call of a delegate.**  Where the arguments resolve to a method, the
query for its signature finds that method, its untyped delegate compiles, and it answers on every
receiver as the late-bound call does.  The same holds of constructors. -/
theorem lateBound_eq_delegate (t : TypeDef) :
    (∀ (name : String) (args : List Value) (m : Method t.type),
      t.resolveMethod name args = .ok m →
        t.queryMethod { name, signature := some m.formals } = .ok m ∧
        ∃ d, m.compile = .ok d ∧
          t.methodDelegate { name, signature := some m.formals } = .ok d ∧
          ∀ i, d.call i args = (t.invokeMethod name i args).mapError .ofBind) ∧
    (∀ (args : List Value) (c : Constructor t.type), t.resolveConstructor args = .ok c →
        ∃ d, c.compile = .ok d ∧ t.constructorDelegate c.formals = .ok d ∧
          d.call args = (t.create args).mapError (Fault.map .ofBind)) := by
  refine ⟨?_, ?_⟩
  · intro name args m h
    have hfound := TypeDef.findMethod_of_resolveMethod h
    obtain ⟨plan, hcompile⟩ := m.exists_compile_framed
    refine ⟨?_, _, hcompile, ?_, ?_⟩
    · rw [TypeDef.queryMethod, hfound]
      rfl
    · exact TypeDef.compileFound_eq_ok hfound hcompile
    · intro i
      rw [TypeDef.invokeMethod, h]
      exact m.callFramed_of_accepts i (TypeDef.accepts_of_resolveMethod h)
  · intro args c h
    have hfound := TypeDef.findConstructor_of_resolveConstructor h
    obtain ⟨plan, hcompile⟩ := c.exists_compile_framed
    refine ⟨_, hcompile, ?_, ?_⟩
    · exact TypeDef.compileFound_eq_ok hfound hcompile
    · rw [TypeDef.create, h]
      exact (c.invoke_eq_construct (accepts_iff_converts.mp
        (TypeDef.accepts_of_resolveConstructor h)).1).symm

/-- Of the two homonyms of the subject the one with two parameters is chosen, by a literal and a
text as by its signature; and a literal makes a subject. -/
theorem lateBound_eq_delegate_subject :
    (∃ d, Subject.definition.methodDelegate
          { name := "format", signature := some [.byValue .text, .byValue .text] } = .ok d ∧
        d.call ⟨Subject.type, Subject.make "x"⟩ [.boxed (.leaf .literal "a"), .text "b"] =
          ⟨⟨Subject.type, Subject.make "x"⟩, .ok (.text "a-b-x")⟩) ∧
    (∃ d, Subject.definition.constructorDelegate [.byValue .text] = .ok d ∧
        d.call [.boxed (.leaf .literal "a")] =
          .ok (Value.ofCarrier Subject.type (Subject.make "a"))) := by
  obtain ⟨hmethods, hconstructors⟩ := lateBound_eq_delegate Subject.definition
  constructor
  · obtain ⟨-, d, -, hd, hcall⟩ := hmethods "format" [.boxed (.leaf .literal "a"), .text "b"]
      Subject.methods[0] rfl
    refine ⟨d, hd, ?_⟩
    rw [hcall]
    rfl
  · obtain ⟨d, -, hd, hcall⟩ := hconstructors [.boxed (.leaf .literal "a")] Subject.constructor rfl
    refine ⟨d, hd, ?_⟩
    rw [hcall]
    rfl

end LateBinding
