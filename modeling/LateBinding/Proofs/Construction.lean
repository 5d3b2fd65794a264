import LateBinding.Proofs.Direct
import LateBinding.Proofs.Copies

/-!
# Construction: three ways to an instance

An instance is constructed reflectively, by the delegate for a boxed instance, and by the delegate
for the constructed type.  Each way converts the arguments on its own, and on a store of shared data
the first two box the instance.

* `FirstMismatch`, `converts_or_firstMismatch` — the arguments convert, or there is a first one that
  does not, and it is the one reported;
* `Constructor.ConstructsAlike`, `Constructor.constructsAlike` — what the three ways come to on the
  same arguments;
* `Constructor.direct_reflected`, `Constructor.direct_compile`, `Constructor.direct_compileTyped` —
  each way is one run of the function, or nothing;
* `Store.buildHolding`, `Pool.constructInto` — laying an instance out in a store, and constructing
  one into a variable of a pool;
* `Allocates`, `allocates_of_boxes` — the variable is the sole owner of a new cell;
* `construction_agrees` — all of it together; `construction_shares` — the two types whose instances
  are not boxed.
-/

namespace LateBinding

/-! ### The first argument that does not convert -/

/-- The argument at position `k` does not convert to the type of its parameter, and all arguments
before it convert. -/
structure FirstMismatch (formals : List Formal) (args : List Value) (k : Nat) (p : Formal)
    (arg : Value) : Prop where
  formal_eq : formals[k]? = some p
  arg_eq : args[k]? = some arg
  fails : arg.coerce p.element = none
  before : Converts (formals.take k) args

/-- **The arguments convert, or the first that does not is the one reported.** -/
theorem converts_or_firstMismatch {formals : List Formal} :
    ∀ {args : List Value}, formals.length ≤ args.length →
      Converts formals args ∨ ∃ k p arg, FirstMismatch formals args k p arg ∧
        coerceEach formals args = .error (arg.mismatch p.element) := by
  induction formals with
  | nil => exact fun _ => .inl fun k p hp => by cases hp
  | cons p ps ih =>
    intro args hlen
    cases args with
    | nil => cases hlen
    | cons arg args =>
      rw [coerceEach, coerceArgument]
      cases hv : arg.coerce p.element with
      | none => exact .inr ⟨0, p, arg, ⟨rfl, rfl, hv, fun k q hq => by cases hq⟩, rfl⟩
      | some v =>
        have hhead : (arg.coerce p.element).isSome := by rw [hv]; rfl
        rcases ih (Nat.le_of_succ_le_succ hlen) with hrest | ⟨k, q, bad, hfirst, herror⟩
        · exact .inl (.cons hhead hrest)
        · refine .inr ⟨k + 1, q, bad, ?_, ?_⟩
          · exact ⟨hfirst.formal_eq, hfirst.arg_eq, hfirst.fails, .cons hhead hfirst.before⟩
          · simp only [herror]

namespace Constructor

variable {declaring : TypeTag} (c : Constructor declaring)

/-! ### What constructing comes to -/

/-- The three ways to construct, on the same arguments: they end as the function does on the coerced
arguments, or report the mismatch of the first that does not coerce. -/
structure ConstructsAlike (untyped : List Value → Except (Fault DelegateError) Value)
    (typed : List Value → Except (Fault DelegateError) declaring.Carrier) (args : List Value) :
    Prop where
  built : Converts c.formals args → ∃ xs, Args.supply args 0 c.types = .ok xs ∧
    c.invoke args = Ending.outcome ((c.run xs).map (Value.ofCarrier declaring)) ∧
    untyped args = Ending.outcome ((c.run xs).map (Value.ofCarrier declaring)) ∧
    typed args = (c.run xs).outcome
  refused : ¬ Converts c.formals args → ∃ k p arg, FirstMismatch c.formals args k p arg ∧
    c.invoke args = .error (.error (.typeMismatch p.element.name arg.typeName)) ∧
    untyped args = .error (.error (.typeMismatch p.element.name arg.typeName)) ∧
    typed args = .error (.error (.typeMismatch p.element.name arg.typeName))

theorem length_formals : c.formals.length = c.arity := List.length_map _

/-- With the right number of arguments it remains to convert them. -/
theorem invokeBy_of_length {ρ : Type} (box : declaring.Carrier → ρ) {args : List Value}
    (hlen : args.length = c.arity) :
    c.invokeBy box args =
      match coerceEach c.formals args with
      | .error e => .error (.error e)
      | .ok frame => c.erasedBy box frame := by
  have hcoerce : coerceArguments s!"{declaring.name}::new" c.formals args =
      coerceEach c.formals args := if_pos (hlen.trans c.length_formals.symm)
  cases hframe : coerceEach c.formals args <;> simp only [invokeBy, hcoerce, hframe]

/-- The frame of a delegate is the one of a reflective construction. -/
theorem marshal_slots {args : List Value} (hlen : args.length = c.arity) :
    marshal args (c.slots .byValue) =
      (coerceEach c.formals args).mapError fun e => .error (.ofBind e) :=
  marshal_eq_coerceEach .byValue (Nat.le_of_eq (c.length_formals.trans hlen.symm))

/-- On a marshalled frame the function runs on the arguments supplied. -/
theorem framed_of_marshal {args frame : List Value}
    (h : marshal args (c.slots .byValue) = .ok frame) :
    ∃ xs, Args.supply args 0 c.types = .ok xs ∧ c.framed frame = (c.run xs).outcome ∧
      c.erased frame = Ending.outcome ((c.run xs).map (Value.ofCarrier declaring)) := by
  obtain ⟨xs, hxs, hread⟩ := Args.supply_of_marshal_ok h
  have hfirst : Args.readFrame frame 0 c.types = .ok xs := hread []
  have hframed : c.framed frame = (c.run xs).outcome := by
    rw [framed, hfirst]
  refine ⟨xs, hxs, hframed, ?_⟩
  rw [erased, erasedBy, hframed, Ending.map_outcome]

theorem constructsAlike {args : List Value} (hlen : args.length = c.arity) :
    c.ConstructsAlike (construct (c.slots .byValue) c.erased)
      (construct (c.slots .byValue) c.framed) args := by
  have hinvoke : c.invoke args = _ := c.invokeBy_of_length (Value.ofCarrier declaring) hlen
  have hmarshal := c.marshal_slots hlen
  constructor
  · intro hargs
    obtain ⟨frame, hframe⟩ := coerceEach_of_converts hargs
    rw [hframe] at hinvoke hmarshal
    obtain ⟨xs, hxs, hframed, herased⟩ := c.framed_of_marshal hmarshal
    refine ⟨xs, hxs, hinvoke.trans herased, ?_, ?_⟩
    · rw [construct, hmarshal]
      exact (congrArg (Except.mapError (Fault.map DelegateError.ofBind)) herased).trans
        (Ending.mapError_outcome _ _)
    · rw [construct, hmarshal]
      exact (congrArg (Except.mapError (Fault.map DelegateError.ofBind)) hframed).trans
        (Ending.mapError_outcome _ _)
  · intro hargs
    have hroom : c.formals.length ≤ args.length :=
      Nat.le_of_eq (c.length_formals.trans hlen.symm)
    obtain ⟨k, p, arg, hfirst, herror⟩ := (converts_or_firstMismatch hroom).resolve_left hargs
    rw [herror] at hinvoke hmarshal
    refine ⟨k, p, arg, hfirst, hinvoke, ?_, ?_⟩
    · rw [construct, hmarshal]
      rfl
    · rw [construct, hmarshal]
      rfl

/-! ### One run or nothing -/

/-- What a reflective construction gets ready. -/
def prepared (args : List Value) : Except (Fault BindError) Frame :=
  ((coerceArguments s!"{declaring.name}::new" c.formals args).map fun converted =>
    ⟨converted, renewedFor c.formals args⟩).mapError .error

/-- The reflective construction as a call through a frame. -/
def reflected : Unit → List Value → Counted (FrameReply BindError Unit Value) := fun s args =>
  c.closure.boxed.through (.bare Unit) id (c.prepared args) s args

/-- A construction as a call on a receiver without a state. -/
def called {ε ρ : Type} (way : List Value → Except (Fault ε) ρ) (s : Unit) (args : List Value) :
    FrameReply ε Unit ρ := ⟨⟨s, way args⟩, args⟩

theorem called_invoke : called c.invoke = fun s args => (c.reflected s args).value := by
  funext s args
  rw [called, invoke, invokeBy, reflected, prepared]
  cases coerceArguments s!"{declaring.name}::new" c.formals args with
  | error e => rfl
  | ok converted =>
    have hentry : (⟨⟨s, c.erased converted⟩, converted⟩ : FrameReply BindError Unit Value) =
        (c.closure.boxed.enter (.bare Unit) s ⟨converted, renewedFor c.formals args⟩).value :=
      congrFun (congrFun c.asCall_erased s) ⟨converted, _⟩
    show _ = ((c.closure.boxed.enter (.bare Unit) s
      ⟨converted, renewedFor c.formals args⟩).value.toReply.mapError id).beside args
    rw [← hentry, Reply.mapError_id]
    rfl

section Function

variable {c} {f : Function Unit declaring.Carrier} (hf : c.closure = f.closure)

include hf

theorem types_of_closure : c.types = f.types := congrArg Closure.types hf

/-- **A reflective construction is one run, or nothing.** -/
theorem direct_reflected : f.boxed.Direct (.bare Unit) c.reflected (called c.invoke) := by
  have htypes : c.types = f.boxed.types := types_of_closure hf
  have hreflected : c.reflected = fun s args =>
      f.boxed.closure.through (.bare Unit) id (c.prepared args) s args := by
    rw [Function.closure_boxed, ← hf]
    rfl
  rw [called_invoke, hreflected]
  refine Function.direct_through (Packing.bare_faithful Unit) id (fun _ args => c.prepared args)
    ?_ ?_
  · intro s args frame hframe
    rw [prepared] at hframe
    cases hcoerce : coerceArguments s!"{declaring.name}::new" c.formals args with
    | error e =>
      rw [hcoerce] at hframe
      cases hframe
    | ok converted =>
      rw [hcoerce] at hframe
      cases hframe
      rw [formals, htypes] at hcoerce
      exact Closure.supplies_of_marshal _ (marshal_of_coerceArguments .byValue hcoerce)
  · intro s args hlen hargs
    rw [← htypes] at hlen hargs
    obtain ⟨converted, hconverted⟩ := coerceEach_of_converts hargs
    refine ⟨⟨converted, renewedFor c.formals args⟩, ?_⟩
    have hcoerce : coerceArguments s!"{declaring.name}::new" c.formals args = .ok converted := by
      rw [coerceArguments, if_pos (hlen.trans c.length_formals.symm)]
      exact hconverted
    rw [prepared, hcoerce]
    rfl

theorem direct_compile : ∃ d, c.compile = .ok d ∧
    f.boxed.Direct (.bare Unit) (c.closure.boxed.tried (.bare Unit)) (called d.call) := by
  obtain ⟨plan, hplan⟩ := c.exists_compile
  refine ⟨_, hplan, ?_⟩
  have htried := Function.direct_tried (f := f.boxed) (Packing.bare_faithful Unit)
  rw [Function.closure_boxed, ← hf, ← c.inPlaceErased_eq_closure, ← c.asCall_erased] at htried
  simp only [Closure.slots, callInPlace_asCall] at htried
  exact htried

theorem direct_compileTyped : ∃ d, c.compileTyped declaring = .ok d ∧
    f.Direct (.bare Unit) (c.closure.tried (.bare Unit)) (called d.call) := by
  obtain ⟨plan, hplan⟩ := c.exists_compileTyped
  refine ⟨_, hplan, ?_⟩
  have htried := Function.direct_tried (f := f) (Packing.bare_faithful Unit)
  rw [← hf, ← c.inPlace_eq_closure, ← c.asCall_framed] at htried
  simp only [Closure.slots, callInPlace_asCall] at htried
  exact htried

end Function

end Constructor

/-! ### Instances in a store -/

/-- Lay a datum out in a store.  Its inner values are made, or shared with variables whose handles
are given by `handles`. -/
def Store.buildHolding (handles : String → Ref) :
    (T : TypeTag) → T.Holding Draft → Store → T.Holding Ref × Store
  | .any, draft, s => build handles draft s
  | .unit, _, s => ((), s)
  | .object, e, _ => nomatch e
  | .leaf _, datum, s => (datum, s)
  | .optional, draft?, s => buildOption handles draft? s
  | .record _, fields, s => buildFields handles fields s

/-- Boxing a datum that is laid out in a store is making its box. -/
theorem Store.ofHolding_buildHolding (handles : String → Ref) (s : Store) {T : TypeTag}
    {x : T.Holding Draft} {content : Content Draft} (h : T.boxed? x = some content) :
    Memory.shared.ofHolding (buildHolding handles T x s).2 T (buildHolding handles T x s).1 =
      build handles (.boxed content) s := by
  cases T <;> cases h <;> rfl

theorem TypeTag.tag_of_boxed? {ν : Type} {T : TypeTag} {x : T.Holding ν} {content : Content ν}
    (h : T.boxed? x = some content) : content.tag = T := by
  cases T <;> cases h <;> rfl

section Allocation

variable {ε : Type} {declaring : TypeTag}

/-- Construct from the values of variables, and let a variable take over the handle on the instance.
An instance may hold values it was given: `place` says which of its inner values are shared with
variables. -/
def Pool.constructInto (p : Pool)
    (way : List Value → Except (Fault ε) (Unboxed declaring Store Ref))
    (place : declaring.Carrier → declaring.Holding Draft) (sources : List String)
    (target : String) : Except (Fault ε) Pool :=
  (way (sources.map p.view)).map fun made =>
    let (ref, store) := made (fun x => Store.buildHolding p.ref declaring (place x)) p.store
    Pool.bind ⟨p.handles, store⟩ target ref

/-- A way to construct that makes a new cell for each instance. -/
structure Allocates (way : List Value → Except (Fault ε) (Unboxed declaring Store Ref)) : Prop where
  /-- In whatever state the pool is, the variable becomes the sole owner of a new cell, in which
  the instance is. -/
  fresh : ∀ steps place sources target p',
    (Pool.run {} steps).constructInto way place sources target = .ok p' →
      ∃ a content, Pool.Fresh (.run {} steps) p' target a content ∧ content.tag = declaring
  /-- So no two instances are one, whatever is done in between. -/
  distinct : ∀ steps place sources target p' later place' sources' target' p'',
    (Pool.run {} steps).constructInto way place sources target = .ok p' →
    (p'.run later).constructInto way place' sources' target' = .ok p'' →
    target ≠ target' → p''.same target target' = false

/-- A way to construct on shared data that is one to construct plain values, but for the boxing. -/
def Boxes (way : List Value → Except (Fault ε) (Unboxed declaring Store Ref))
    (plain : List Value → Except (Fault ε) Value) : Prop :=
  ∀ args, ∃ made : Except (Fault ε) declaring.Carrier,
    way args = made.map (Memory.shared.boxing declaring) ∧
    plain args = made.map (Value.ofCarrier declaring)

variable {way : List Value → Except (Fault ε) (Unboxed declaring Store Ref)}
  {plain : List Value → Except (Fault ε) Value}
  {place : declaring.Carrier → declaring.Holding Draft} {sources : List String} {target : String}
  {p p' : Pool}

/-- **An instance that is boxed is a datum that is made**, unless boxing makes none. -/
theorem Boxes.exists_make (h : Boxes way plain) (hany : declaring ≠ .any)
    (hunit : declaring ≠ .unit) (hp : p.constructInto way place sources target = .ok p') :
    ∃ content, content.tag = declaring ∧ p' = (p.step (.make target (.boxed content))).2 := by
  obtain ⟨made, hway, -⟩ := h (sources.map p.view)
  rw [Pool.constructInto, hway] at hp
  cases made with
  | error fault => cases hp
  | ok x =>
    obtain ⟨content, hcontent⟩ := TypeTag.exists_boxed? hany hunit (place x)
    refine ⟨content, TypeTag.tag_of_boxed? hcontent, ?_⟩
    have hbuilt := Store.ofHolding_buildHolding p.ref p.store hcontent
    simp only [Except.map, Memory.boxing, hbuilt] at hp
    cases hp
    rfl

/-- **What is constructed has a new cell.** -/
theorem allocates_of_boxes (h : Boxes way plain) (hany : declaring ≠ .any)
    (hunit : declaring ≠ .unit) : Allocates way where
  fresh := by
    intro steps place sources target p' hp
    obtain ⟨content, htag, rfl⟩ := h.exists_make hany hunit hp
    obtain ⟨a, hfresh⟩ :=
      Pool.fresh_make (Pool.scoped_run Pool.scoped_empty steps) target content
    exact ⟨a, _, hfresh, (Store.tag_buildContent _ content _).trans htag⟩
  distinct := by
    intro steps place sources target p' later place' sources' target' p'' hp hp' hne
    obtain ⟨content, -, rfl⟩ := h.exists_make hany hunit hp
    have hscoped := Pool.scoped_step (Pool.scoped_run Pool.scoped_empty steps)
      (.make target (.boxed content))
    obtain ⟨content', -, rfl⟩ := h.exists_make hany hunit hp'
    obtain ⟨a, hfresh⟩ := Pool.fresh_make (Pool.scoped_run hscoped later) target' content'
    exact hfresh.not_same hne

end Allocation

namespace Constructor

variable {declaring : TypeTag} (c : Constructor declaring)

theorem boxes_invokeOn : Boxes (c.invokeOn Memory.shared) c.invoke := by
  intro args
  rw [invokeOn, invoke, invokeBy, invokeBy]
  cases coerceArguments s!"{declaring.name}::new" c.formals args with
  | error e => exact ⟨.error (.error e), rfl, rfl⟩
  | ok frame => exact ⟨c.framed frame, rfl, rfl⟩

theorem boxes_construct : Boxes
    (construct (c.slots .byValue) (c.erasedBy (Memory.shared.boxing declaring)))
    (construct (c.slots .byValue) c.erased) := by
  intro args
  rw [construct, construct]
  cases marshal args (c.slots .byValue) with
  | error fault => exact ⟨.error fault, rfl, rfl⟩
  | ok frame =>
    refine ⟨(c.framed frame).mapError (Fault.map .ofBind), ?_, ?_⟩
    · simp only [erasedBy]
      cases c.framed frame <;> rfl
    · simp only [erased, erasedBy]
      cases c.framed frame <;> rfl

end Constructor

/-! ### The three ways together -/

/-- **Reflective construction and the delegates of a constructor agree.**  With the right number of
arguments all three end as the function does on the coerced arguments, if every argument coerces to
the type of its parameter; otherwise all report the mismatch of the first argument that does not.
If the function always ends with a result, a success is one run of it, and a failure none.

On shared data a boxed instance is put into a new cell, whose sole owner is the variable that it is
returned to.  This is said of types whose data are boxed: a value is handed on as it is, and the
unit datum is null. -/
theorem construction_agrees {declaring : TypeTag} (c : Constructor declaring) :
    ∃ untyped typed shared, c.compile = .ok untyped ∧ c.compileTyped declaring = .ok typed ∧
      c.compileOn Memory.shared = .ok shared ∧
      (∀ args, args.length = c.arity → c.ConstructsAlike untyped.call typed.call args) ∧
      (∀ f : Function Unit declaring.Carrier, c.closure = f.closure →
        f.boxed.Direct (.bare Unit) c.reflected (Constructor.called c.invoke) ∧
        f.boxed.Direct (.bare Unit) (c.closure.boxed.tried (.bare Unit))
          (Constructor.called untyped.call) ∧
        f.Direct (.bare Unit) (c.closure.tried (.bare Unit)) (Constructor.called typed.call)) ∧
      Boxes (c.invokeOn Memory.shared) c.invoke ∧ Boxes shared.call untyped.call ∧
      (declaring ≠ .any → declaring ≠ .unit →
        Allocates (c.invokeOn Memory.shared) ∧ Allocates shared.call) := by
  obtain ⟨plan, huntyped⟩ := c.exists_compile_framed
  obtain ⟨plan', htyped⟩ := c.exists_compileTyped
  obtain ⟨plan'', hshared⟩ := c.exists_compileBy_framed (Memory.shared.boxing declaring)
  refine ⟨_, _, _, huntyped, htyped, hshared, ?_, ?_, c.boxes_invokeOn, c.boxes_construct, ?_⟩
  · intro args hlen
    rw [c.constructInPlace_framed]
    exact c.constructsAlike hlen
  · intro f hf
    obtain ⟨untyped, huntyped', hdirect⟩ := Constructor.direct_compile hf
    obtain ⟨typed, htyped', hdirect'⟩ := Constructor.direct_compileTyped hf
    cases huntyped.symm.trans huntyped'
    cases htyped.symm.trans htyped'
    exact ⟨Constructor.direct_reflected hf, hdirect, hdirect'⟩
  · intro hany hunit
    exact ⟨allocates_of_boxes c.boxes_invokeOn hany hunit,
      allocates_of_boxes c.boxes_construct hany hunit⟩

/-- A subject is made from a literal, which coerces to a text, and not from a truth value.  Boxed
into a variable it is not shared. -/
theorem construction_agrees_subject :
    ∃ untyped typed shared, Subject.constructor.compile = .ok untyped ∧
      Subject.constructor.compileTyped Subject.type = .ok typed ∧
      Subject.constructor.compileOn Memory.shared = .ok shared ∧
      untyped.call [.boxed (.leaf .literal "a")] =
        .ok (Value.ofCarrier Subject.type (Subject.make "a")) ∧
      typed.call [.boxed (.leaf .bool true)] =
        .error (.error (.typeMismatch "String" "bool")) ∧
      ∃ p', (Pool.run {} [.make "v" (.boxed (.leaf .literal "a"))]).constructInto shared.call
        Draft.ofFields ["v"] "w" = .ok p' ∧ p'.isUnique "w" := by
  obtain ⟨untyped, typed, shared, huntyped, htyped, hshared, halike, -, -, hboxes, hallocates⟩ :=
    construction_agrees Subject.constructor
  have hargs : Converts Subject.constructor.formals [.boxed (.leaf .literal "a")] := by
    intro k p hp
    match k with
    | 0 => cases hp; exact ⟨_, rfl, rfl⟩
    | k + 1 => cases hp
  obtain ⟨xs, hxs, -, hbuilt, -⟩ := (halike [.boxed (.leaf .literal "a")] rfl).built hargs
  cases hxs
  refine ⟨untyped, typed, shared, huntyped, htyped, hshared, hbuilt, ?_, ?_⟩
  · have hbad : ¬ Converts Subject.constructor.formals [.boxed (.leaf .bool true)] := by
      intro h
      obtain ⟨arg, harg, hconv⟩ := h 0 (.byValue .text) rfl
      cases harg
      cases hconv
    obtain ⟨k, p, arg, hfirst, -, -, herror⟩ := (halike _ rfl).refused hbad
    match k, hfirst with
    | 0, hfirst =>
      cases hfirst.formal_eq
      cases hfirst.arg_eq
      exact herror
    | k + 1, hfirst => cases hfirst.formal_eq
  · have hview : (Pool.run {} [.make "v" (.boxed (.leaf .literal "a"))]).view "v" =
        .boxed (.leaf .literal "a") := by
      simp [Pool.run, Pool.step, Pool.bind, Pool.setHandle, Pool.view, Pool.ref, Pool.ref?,
        Store.build, Store.buildContent, Store.alloc, Store.releaseRef, Store.release, Store.view,
        Store.viewTo, Store.read?, Store.cell?]
    have hinto : ∃ p', (Pool.run {} [.make "v" (.boxed (.leaf .literal "a"))]).constructInto
        shared.call Draft.ofFields ["v"] "w" = .ok p' := by
      obtain ⟨made, hway, hplain⟩ := hboxes [.boxed (.leaf .literal "a")]
      rw [Pool.constructInto, List.map_singleton, hview, hway]
      cases made with
      | error fault => cases hbuilt.symm.trans hplain
      | ok x => exact ⟨_, rfl⟩
    obtain ⟨p', hp'⟩ := hinto
    obtain ⟨a, content, hfresh, -⟩ :=
      (hallocates (by decide) (by decide)).2.fresh _ _ _ _ _ hp'
    exact ⟨p', hp', hfresh.isUnique⟩

/-- A constructor of the unit type. -/
def unitConstructor : Constructor .unit := ⟨[], [], fun () => .ok ()⟩

/-- A constructor of values, which hands its argument on. -/
def valueConstructor : Constructor .any := ⟨["value"], [.any], fun (v, ()) => .ok v⟩

/-- **Not every instance is put into a cell of its own.**  Two instances of the unit type are both
null.  A value that is handed on by its constructor is shared with the argument. -/
theorem construction_shares :
    (∃ shared p p', unitConstructor.compileOn Memory.shared = .ok shared ∧
      Pool.constructInto {} shared.call (fun _ => ()) [] "a" = .ok p ∧
      p.constructInto shared.call (fun _ => ()) [] "b" = .ok p' ∧ p'.same "a" "b") ∧
    ∃ shared p', valueConstructor.compileOn Memory.shared = .ok shared ∧
      (Pool.run {} [.make "v" (.boxed (.leaf .text "x"))]).constructInto shared.call
        (fun _ => .sharing "v") ["v"] "w" = .ok p' ∧ p'.same "v" "w" ∧ ¬ p'.isUnique "w" := by
  constructor
  · refine ⟨_, _, _, rfl, rfl, rfl, ?_⟩
    simp [Pool.same, Pool.ref, Pool.ref?, Pool.bind, Pool.setHandle, Memory.boxing,
      Memory.ofHolding, Memory.shared]
  · refine ⟨_, _, rfl, rfl, ?_, ?_⟩ <;>
      simp [Pool.same, Pool.isUnique, Pool.ref, Pool.ref?, Pool.bind, Pool.setHandle, Pool.run,
        Pool.step, Memory.boxing, Memory.ofHolding, Store.buildHolding, Store.build,
        Store.buildContent, Store.alloc, Store.isUnique, Store.releaseRef, Store.release,
        Store.retain, Store.cell?, Store.put]

end LateBinding
