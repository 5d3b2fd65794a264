import LateBinding.Proofs.Resolution

/-!
# Exposure: hidden methods are out of reach

A lookup that may not bind to hidden methods depends on the exposed methods of a type alone: hidden
ones are neither found nor counted, however they are named and whatever they accept.

* `TypeDef.face` — the exposed methods of a type, each with the type that declares it;
* `BindingRules.admits_hidden_eq_false_iff` — the rules that leave hidden members aside;
* `TypeDef.map_filter_methods` — a choice among exposed methods is a choice from the face;
* `TypeDef.map_findMethod_congr`, `TypeDef.map_resolveMethod_congr` — types with one name and one
  face are looked up alike;
* `TypeDef.AnswersAlike`, `TypeDef.FindsExposed` — what follows for the answers to a query, and what
  is said of the methods found;
* `hidden_unreachable` — all of it together.
-/

namespace LateBinding

theorem BindingRules.admits_hidden_eq_false_iff (r : BindingRules) :
    r.admits .hidden = false ↔ r.hidden = false ∨ r.instances = false := by
  rw [admits, Bool.and_eq_false_iff]
  exact Or.comm

/-- Rules that do not admit hidden members admit exposed ones only. -/
theorem BindingRules.exposed_of_admits {r : BindingRules} (hr : r.admits .hidden = false)
    {visibility : Visibility} (h : r.admits visibility) : visibility = .exposed := by
  cases visibility with
  | exposed => rfl
  | hidden =>
    rw [hr] at h
    cases h

namespace TypeDef

/-! ### Choices from the face of a type -/

/-- The exposed methods, each with the type that declares it. -/
def face (t : TypeDef) : List ((T : TypeTag) × Method T) :=
  (t.methods.filter fun m => m.visibility = .exposed).map (Sigma.mk t.type)

variable {t t' : TypeDef}

/-- **A choice among exposed methods is a choice from the face.** -/
theorem map_filter_methods {p : (T : TypeTag) → Method T → Bool}
    (hp : ∀ T m, p T m → m.visibility = .exposed) (t : TypeDef) :
    (t.methods.filter (p t.type)).map (Sigma.mk t.type) = t.face.filter fun m => p m.1 m.2 := by
  have hexposed : t.methods.filter (p t.type) =
      (t.methods.filter fun m => m.visibility = .exposed).filter (p t.type) := by
    rw [List.filter_filter]
    refine List.filter_congr fun m _ => ?_
    cases hm : p t.type m with
    | false => rfl
    | true => simp [hp t.type m hm]
  rw [face, List.filter_map, hexposed]
  rfl

theorem single_congr (hname : t.name = t'.name) {α : Type} (member : String)
    (candidates : List α) : t.single member candidates = t'.single member candidates := by
  match candidates with
  | [] => rw [single, single, hname]
  | [_] => rfl
  | c :: c' :: rest =>
    show Except.error (BindError.ambiguousMatch t.name member (c :: c' :: rest).length) = _
    rw [hname]
    rfl

/-- One name, one face, and a choice among exposed methods: one outcome. -/
theorem map_single_methods_congr (hname : t.name = t'.name) (hface : t.face = t'.face)
    {p : (T : TypeTag) → Method T → Bool} (hp : ∀ T m, p T m → m.visibility = .exposed)
    (member : String) :
    (t.single member (t.methods.filter (p t.type))).map (Sigma.mk t.type) =
      (t'.single member (t'.methods.filter (p t'.type))).map (Sigma.mk t'.type) := by
  rw [← single_map, ← single_map, map_filter_methods hp, map_filter_methods hp, hface]
  exact single_congr hname member _

theorem exposed_of_reaches {q : MethodQuery} (hq : q.rules.admits .hidden = false)
    {T : TypeTag} {m : Method T} (h : q.reaches m) : m.visibility = .exposed :=
  BindingRules.exposed_of_admits hq (Bool.and_eq_true_iff.mp h).2

theorem exposed_of_selects {q : MethodQuery} (hq : q.rules.admits .hidden = false)
    {T : TypeTag} {m : Method T} (h : q.selects m) : m.visibility = .exposed :=
  exposed_of_reaches hq (Bool.and_eq_true_iff.mp h).1

/-- **Types with one name and one face are looked up alike** by rules that leave hidden members
aside. -/
theorem map_findMethod_congr (hname : t.name = t'.name) (hface : t.face = t'.face)
    {q : MethodQuery} (hq : q.rules.admits .hidden = false) :
    (t.findMethod q).map (Sigma.mk t.type) = (t'.findMethod q).map (Sigma.mk t'.type) :=
  map_single_methods_congr hname hface (p := fun _ m => q.selects m)
    (fun _ _ => exposed_of_selects hq) q.name

theorem exposed_of_resolves {name : String} {args : List Value} {T : TypeTag} {m : Method T}
    (h : MethodQuery.reaches { name } m && accepts m.formals args) : m.visibility = .exposed :=
  exposed_of_reaches (q := { name }) rfl (Bool.and_eq_true_iff.mp h).1

/-- **So does a late-bound call.** -/
theorem map_resolveMethod_congr (hname : t.name = t'.name) (hface : t.face = t'.face)
    (name : String) (args : List Value) :
    (t.resolveMethod name args).map (Sigma.mk t.type) =
      (t'.resolveMethod name args).map (Sigma.mk t'.type) :=
  map_single_methods_congr hname hface
    (p := fun _ m => MethodQuery.reaches { name } m && accepts m.formals args)
    (fun _ _ => exposed_of_resolves) name

/-! ### What follows for calls and delegates -/

theorem compileFound_map {α α' β : Type} (found : Except BindError α) (f : α → α')
    (compile : α' → Except Refusal β) :
    compileFound (found.map f) compile = compileFound found fun member => compile (f member) := by
  cases found <;> rfl

theorem of_compileFound {α β : Type} {found : Except BindError α}
    {compile : α → Except Refusal β} {d : β} (h : compileFound found compile = .ok d) :
    ∃ member, found = .ok member ∧ compile member = .ok d := by
  cases found with
  | error e => cases h
  | ok member =>
    refine ⟨member, rfl, ?_⟩
    rw [compileFound] at h
    cases hcompile : compile member with
    | error refusal =>
      rw [hcompile] at h
      cases h
    | ok d' =>
      rw [hcompile] at h
      cases h
      rfl

/-- Two types give the same answers to a query: the same method or the same failure, and delegates
that are the same function. -/
structure AnswersAlike (t t' : TypeDef) (q : MethodQuery) : Prop where
  find : (t.findMethod q).map (Sigma.mk t.type) = (t'.findMethod q).map (Sigma.mk t'.type)
  query : (t.queryMethod q).map (Sigma.mk t.type) = (t'.queryMethod q).map (Sigma.mk t'.type)
  delegate : t.methodDelegate q = t'.methodDelegate q
  delegateFor : ∀ T, t.methodDelegateFor T q = t'.methodDelegateFor T q
  delegateTyped : ∀ T R, t.methodDelegateTyped T R q = t'.methodDelegateTyped T R q
  delegateByRef : ∀ T R, t.methodDelegateByRef T R q = t'.methodDelegateByRef T R q

/-- Whatever is compiled of what was found is the same. -/
theorem compileFound_congr {β : Type} {q : MethodQuery}
    (hfind : (t.findMethod q).map (Sigma.mk t.type) = (t'.findMethod q).map (Sigma.mk t'.type))
    (compile : (T : TypeTag) → Method T → Except Refusal β) :
    compileFound (t.findMethod q) (compile t.type) =
      compileFound (t'.findMethod q) (compile t'.type) := by
  have hmapped := congrArg (fun found => compileFound found fun m => compile m.1 m.2) hfind
  simp only [compileFound_map] at hmapped
  exact hmapped

theorem answersAlike (hname : t.name = t'.name) (hface : t.face = t'.face) {q : MethodQuery}
    (hq : q.rules.admits .hidden = false) : AnswersAlike t t' q := by
  have hfind := map_findMethod_congr hname hface hq
  refine ⟨hfind, ?_, ?_, ?_, ?_, ?_⟩
  · have hcarried := congrArg (Except.mapError DelegateError.ofBind) hfind
    rw [queryMethod, queryMethod]
    cases hm : t.findMethod q <;> cases hm' : t'.findMethod q <;> rw [hm, hm'] at hcarried <;>
      exact hcarried
  · exact compileFound_congr hfind fun _ m => m.compile
  · exact fun T => compileFound_congr hfind fun _ m => m.compileTyped T .any
  · exact fun T R => compileFound_congr hfind fun _ m => m.compileTyped T R
  · exact fun T R => compileFound_congr hfind fun _ m => m.compileByRefTyped T R

/-- A late-bound call is a call of what was found, whatever type declares it. -/
theorem invokeMethod_eq_map (t : TypeDef) (name : String) (i : Instance) (args : List Value) :
    t.invokeMethod name i args =
      match (t.resolveMethod name args).map (Sigma.mk t.type) with
      | .error e => .refused i e
      | .ok m => m.2.invoke i args := by
  rw [invokeMethod]
  cases t.resolveMethod name args <;> rfl

theorem invokeMethod_congr (hname : t.name = t'.name) (hface : t.face = t'.face) (name : String)
    (i : Instance) (args : List Value) :
    t.invokeMethod name i args = t'.invokeMethod name i args := by
  rw [invokeMethod_eq_map, invokeMethod_eq_map, map_resolveMethod_congr hname hface]

/-! ### What is found -/

theorem of_single_filter {α : Type} {member : String} {p : α → Bool} {l : List α} {x : α}
    (h : t.single member (l.filter p) = .ok x) : x ∈ l ∧ p x := by
  have hx : x ∈ l.filter p := by
    rw [t.single_eq_ok_iff.mp h]
    exact List.mem_singleton_self x
  exact List.mem_filter.mp hx

/-- The method is an exposed method of the type. -/
def Exposes (t : TypeDef) (m : Method t.type) : Prop := m ∈ t.methods ∧ m.visibility = .exposed

/-- What a query finds is an exposed method, and delegates are compiled of exposed methods. -/
structure FindsExposed (t : TypeDef) (q : MethodQuery) : Prop where
  find : ∀ m, t.findMethod q = .ok m → t.Exposes m
  query : ∀ m, t.queryMethod q = .ok m → t.Exposes m
  delegate : ∀ d, t.methodDelegate q = .ok d → ∃ m, t.Exposes m ∧ m.compile = .ok d
  delegateFor : ∀ T d, t.methodDelegateFor T q = .ok d →
    ∃ m, t.Exposes m ∧ m.compileTyped T .any = .ok d
  delegateTyped : ∀ T R d, t.methodDelegateTyped T R q = .ok d →
    ∃ m, t.Exposes m ∧ m.compileTyped T R = .ok d
  delegateByRef : ∀ T R d, t.methodDelegateByRef T R q = .ok d →
    ∃ m, t.Exposes m ∧ m.compileByRefTyped T R = .ok d

theorem exposes_of_findMethod {q : MethodQuery} (hq : q.rules.admits .hidden = false)
    {m : Method t.type} (h : t.findMethod q = .ok m) : t.Exposes m := by
  obtain ⟨hmem, hselects⟩ := of_single_filter h
  exact ⟨hmem, exposed_of_selects hq hselects⟩

theorem exposes_of_resolveMethod {name : String} {args : List Value} {m : Method t.type}
    (h : t.resolveMethod name args = .ok m) : t.Exposes m := by
  obtain ⟨hmem, hresolves⟩ := of_single_filter h
  exact ⟨hmem, exposed_of_resolves hresolves⟩

theorem exposes_of_compileFound {q : MethodQuery} (hq : q.rules.admits .hidden = false)
    {β : Type} {compile : Method t.type → Except Refusal β} {d : β}
    (h : compileFound (t.findMethod q) compile = .ok d) :
    ∃ m, t.Exposes m ∧ compile m = .ok d := by
  obtain ⟨m, hm, hd⟩ := of_compileFound h
  exact ⟨m, exposes_of_findMethod hq hm, hd⟩

theorem findsExposed (t : TypeDef) {q : MethodQuery} (hq : q.rules.admits .hidden = false) :
    t.FindsExposed q where
  find _ h := exposes_of_findMethod hq h
  query m h := by
    rw [queryMethod] at h
    cases hm : t.findMethod q with
    | error e =>
      rw [hm] at h
      cases h
    | ok m' =>
      rw [hm] at h
      cases h
      exact exposes_of_findMethod hq hm
  delegate _ h := exposes_of_compileFound hq h
  delegateFor _ _ h := exposes_of_compileFound hq h
  delegateTyped _ _ _ h := exposes_of_compileFound hq h
  delegateByRef _ _ _ h := exposes_of_compileFound hq h

end TypeDef

/-- **Hidden methods are out of reach of lookups that may not bind to them, and do not show in their
answers.**  Two types of one name whose exposed methods are the same answer every such query alike,
with the same method or the same failure, number of candidates included, and every late-bound call
alike.  What is found, and called, is an exposed method.

The rules `BindingRules.standard` leave hidden members aside: `{ name }` and
`{ name, signature := some formals }` are queries of this kind. -/
theorem hidden_unreachable (t t' : TypeDef) (hname : t.name = t'.name) (hface : t.face = t'.face) :
    (∀ q : MethodQuery, q.rules.hidden = false ∨ q.rules.instances = false →
      TypeDef.AnswersAlike t t' q ∧ t.FindsExposed q) ∧
    (∀ name args,
      (t.resolveMethod name args).map (Sigma.mk t.type) =
        (t'.resolveMethod name args).map (Sigma.mk t'.type) ∧
      (∀ m, t.resolveMethod name args = .ok m → t.Exposes m) ∧
      ∀ i, t.invokeMethod name i args = t'.invokeMethod name i args) := by
  constructor
  · intro q hrules
    have hq : q.rules.admits .hidden = false :=
      (BindingRules.admits_hidden_eq_false_iff q.rules).mpr hrules
    exact ⟨TypeDef.answersAlike hname hface hq, t.findsExposed hq⟩
  · intro name args
    exact ⟨TypeDef.map_resolveMethod_congr hname hface name args,
      fun m hm => TypeDef.exposes_of_resolveMethod hm,
      fun i => TypeDef.invokeMethod_congr hname hface name i args⟩

/-- A hidden homonym of the subject's `format`, with the same parameters, neither takes part in a
call by name nor is counted; to rules that admit it it is one more candidate. -/
theorem hidden_unreachable_homonym :
    let t := Subject.definition.withMethod { Subject.methods[0] with visibility := .hidden }
    t.name = Subject.definition.name ∧ t.face = Subject.definition.face ∧
      t.invokeMethod "format" ⟨Subject.type, Subject.make "x"⟩ [.text "a", .text "b"] =
        ⟨⟨Subject.type, Subject.make "x"⟩, .ok (.text "a-b-x")⟩ ∧
      t.methodDelegate { name := "format" } =
        .error (.memberNotFound "Sample" "format" (.ambiguous 2)) ∧
      t.queryMethod { name := "format", rules := .everything } =
        .error (.memberNotFound "Sample" "format" (.ambiguous 3)) := by
  intro t
  have hname : t.name = Subject.definition.name := rfl
  have hface : t.face = Subject.definition.face := rfl
  obtain ⟨hqueries, hcalls⟩ := hidden_unreachable t Subject.definition hname hface
  refine ⟨hname, hface, ?_, ?_, ?_⟩
  · rw [(hcalls "format" [.text "a", .text "b"]).2.2]
    rfl
  · rw [(hqueries { name := "format" } (.inl rfl)).1.delegate]
    rfl
  · rfl

end LateBinding
