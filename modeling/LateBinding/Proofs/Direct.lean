import LateBinding.Proofs.Reflection

/-!
# Direct calls: one run or nothing

A method given by a function that always ends with a result can be called in eight ways:
reflectively, with and without write-back, and by delegates of three levels of typing, with and
without write-back.  They check receiver, number and types of the arguments in orders of their own.
Whatever the order, a call that ends well is one run of the function, and any other call is nothing
at all.

* `Closure.through` — a call through a frame that was got ready beforehand, with the runs it takes;
* `Args.converts_of_supply`, `Packing.Faithful` — what a run says about arguments and receiver;
* `Function.Direct` — the account of one way to call, and `Function.direct_through`,
  `Function.direct_tried` — the account of calls through a frame and of calls that try in place
  first;
* `Method.prepared` — what a reflective call gets ready;
* `Method.invoke_of_closure?`, `Method.invokeByRef_of_closure?`, `Closure.callByRef_eq_marshalled` —
  reflective calls and calls with write-back as calls through a frame.  Nothing is written back;
* `oneRun_or_nothing` — the eight ways together.
-/

namespace LateBinding

/-! ### Replies and containers -/

namespace Reply

variable {ε σ ρ : Type}

theorem mapError_id (r : Reply ε σ ρ) : r.mapError id = r := by
  obtain ⟨s, outcome⟩ := r
  rcases outcome with (_ | _ | _) | _ <;> rfl

/-- The reply together with the container, which the call did not get hold of. -/
def beside (args : List Value) (r : Reply ε σ ρ) : FrameReply ε σ ρ := ⟨r, args⟩

end Reply

def Counted.map {α β : Type} (g : α → β) (c : Counted α) : Counted β := ⟨g c.value, c.runs⟩

/-- The receivers that can be reached are those that wrap a state. -/
def Packing.Faithful {σ τ : Type} (a : Packing σ τ) : Prop :=
  ∀ s x, a.unpack s = .ok x ↔ s = a.pack x

theorem Packing.bare_faithful (τ : Type) : (bare τ).Faithful := by
  intro s x
  exact Except.ok.injEq s x ▸ Iff.rfl

theorem Packing.tagged_faithful (declaring : TypeTag) : (tagged declaring).Faithful := by
  intro i x
  simp only [tagged]
  constructor
  · intro h
    split at h
    · rename_i hi
      obtain ⟨T, s⟩ := i
      obtain rfl : T = declaring := hi
      cases h
      rfl
    · cases h
  · rintro rfl
    exact dif_pos rfl

/-- Arguments can be supplied only if each of them converts. -/
theorem Args.converts_of_supply {args : List Value} {types : List TypeTag} :
    ∀ {i : Nat} {xs : Args types}, supply args i types = .ok xs →
      ∀ (k : Nat) (p : Formal), (types.map Formal.byValue)[k]? = some p →
        ∃ arg, args[i + k]? = some arg ∧ (arg.coerce p.element).isSome := by
  induction types with
  | nil => intro i xs _ k p hp; cases hp
  | cons T types ih =>
    intro i xs h k p hp
    rw [supply] at h
    split at h
    · cases h
    rename_i v hv
    split at h
    · cases h
    rename_i x hx
    split at h
    · cases h
    rename_i rest hrest
    cases k with
    | zero =>
      cases hp
      refine ⟨v, hv, ?_⟩
      have hne : v.converted? T ≠ none := by simp [hx]
      exact Option.isSome_iff_ne_none.mpr fun hnone => hne (Value.converted?_eq_none_iff.mpr hnone)
    | succ k =>
      obtain ⟨arg, harg, hconv⟩ := ih hrest k p hp
      exact ⟨arg, by rw [← harg]; congr 1; omega, hconv⟩

namespace Closure

variable {ε σ τ ρ : Type} (f : Closure τ ρ) (a : Packing σ τ)

/-! ### Calls through a frame -/

/-- The call through a frame that was got ready beforehand, or the fault met on the way. -/
def through (carry : BindError → ε) (prepared : Except (Fault ε) Frame) (s : σ)
    (args : List Value) : Counted (FrameReply ε σ ρ) :=
  match prepared with
  | .error fault => ⟨.stopped s args fault, 0⟩
  | .ok frame => (f.enter a s frame).map fun reply => (reply.toReply.mapError carry).beside args

/-- A frame holds the supplied arguments. -/
def Supplies (args : List Value) (frame : Frame) : Prop :=
  ∃ xs, Args.supply args 0 f.types = .ok xs ∧ Args.readFrame frame.values 0 f.types = .ok xs

/-- What a delegate gets ready. -/
def ready (variant : Variant) (args : List Value) : Except (Fault DelegateError) Frame :=
  (marshal args (Slot.ofFormals variant 0 (f.types.map .byValue))).map fun values =>
    ⟨values, renewed args (Slot.ofFormals variant 0 (f.types.map .byValue))⟩

/-- The call of a delegate that does not try in place. -/
def marshalled (variant : Variant) (s : σ) (args : List Value) :
    Counted (FrameReply DelegateError σ ρ) := f.through a .ofBind (f.ready variant args) s args

/-- The call of a delegate that tries in place first. -/
def tried (s : σ) (args : List Value) : Counted (FrameReply DelegateError σ ρ) :=
  (f.call a s args).map (Reply.beside args)

variable {f a}

/-- On a frame of supplied arguments the function is entered as soon as the receiver is reached. -/
theorem enter_of_readFrame {s : σ} {frame : Frame} {xs : Args f.types}
    (hread : Args.readFrame frame.values 0 f.types = .ok xs) :
    f.enter a s frame =
      match a.unpack s with
      | .error e => ⟨.stopped s frame.values (.error e), 0⟩
      | .ok x => ⟨⟨⟨a.pack (f.run x xs).1, (f.run x xs).2.outcome⟩, frame.values⟩, 1⟩ := by
  rw [enter]
  cases a.unpack s with
  | error e => rfl
  | ok x => simp only [hread]

/-- A marshalled frame holds the supplied arguments. -/
theorem supplies_of_marshal {variant : Variant} {args values : List Value} (sole : Nat → Bool)
    (h : marshal args (Slot.ofFormals variant 0 (f.types.map .byValue)) = .ok values) :
    f.Supplies args ⟨values, sole⟩ := by
  obtain ⟨xs, hxs, hread⟩ := Args.supply_of_marshal_ok h
  exact ⟨xs, hxs, hread []⟩

theorem supplies_of_ready {variant : Variant} {args : List Value} {frame : Frame}
    (h : f.ready variant args = .ok frame) : f.Supplies args frame := by
  rw [ready] at h
  cases hm : marshal args (Slot.ofFormals variant 0 (f.types.map .byValue)) with
  | error fault =>
    rw [hm] at h
    cases h
  | ok values =>
    rw [hm] at h
    cases h
    exact supplies_of_marshal _ hm

theorem ready_of_converts (variant : Variant) {args : List Value}
    (h : Converts (f.types.map .byValue) args) : ∃ frame, f.ready variant args = .ok frame := by
  obtain ⟨values, hvalues⟩ := marshal_of_converts variant h
  exact ⟨_, by rw [ready, hvalues]; rfl⟩

/-! ### Nothing to write back -/

theorem writeBack_byValue (variant : Variant) {types : List TypeTag} :
    ∀ (i : Nat) (frame args : List Value),
      writeBack (Slot.ofFormals variant i (types.map .byValue)) frame args = .ok args := by
  induction types with
  | nil => intro i frame args; rfl
  | cons T types ih =>
    intro i frame args
    cases frame with
    | nil => rfl
    | cons v frame =>
      rw [List.map_cons, Slot.ofFormals, writeBack]
      simp only [Formal.byValue, Bool.and_false, Bool.false_eq_true, if_false]
      exact ih (i + 1) frame args

theorem copyBack_byValue {types : List TypeTag} :
    ∀ (i : Nat) (names : List String) (frame args : List Value),
      Method.copyBack (Parameter.listFrom i names (types.map .byValue)) frame args = args := by
  induction types with
  | nil => intro i names frame args; rfl
  | cons T types ih =>
    intro i names frame args
    cases frame with
    | nil => exact copyBack_nil _ args
    | cons v frame =>
      rw [List.map_cons, copyBack_listFrom_cons]
      exact ih (i + 1) names.tail frame _

variable (f a)

/-- The call with write-back of a delegate leaves the container alone. -/
theorem callByRef_eq_marshalled :
    callByRef (Slot.ofFormals .byRef 0 (f.types.map .byValue)) (f.framed a) =
      fun s args => (f.marshalled a .byRef s args).value := by
  funext s args
  simp only [callByRef, marshalled, ready, through]
  cases marshal args (Slot.ofFormals .byRef 0 (f.types.map .byValue)) with
  | error fault => rfl
  | ok values =>
    simp only [writeBack_byValue]
    split <;> rfl

end Closure

namespace Function

variable {ε σ τ ρ : Type} (f : Function τ ρ) (a : Packing σ τ)

/-! ### The account of a way to call -/

/-- A way to call the function, accounted for by the runs it takes. -/
structure Direct (counted : σ → List Value → Counted (FrameReply ε σ ρ))
    (call : σ → List Value → FrameReply ε σ ρ) : Prop where
  /-- What is counted are the runs of this call. -/
  value_eq : ∀ s args, (counted s args).value = call s args
  /-- A call that ends well takes one run, any other call none. -/
  runs_eq : ∀ s args, (counted s args).runs = (call s args).outcome.isOk.toNat
  /-- The run is on the state of the receiver and on the converted arguments. -/
  of_ok : ∀ {s args r}, (call s args).outcome = .ok r →
    ∃ x xs, s = a.pack x ∧ Converts (f.types.map .byValue) args ∧
      Args.supply args 0 f.types = .ok xs ∧
      (call s args).receiver = a.pack (f.run x xs).1 ∧ r = (f.run x xs).2
  /-- A call that fails leaves the receiver alone. -/
  of_fault : ∀ {s args fault}, (call s args).outcome = .error fault → (call s args).receiver = s
  /-- The container is left alone in either case. -/
  args_eq : ∀ s args, (call s args).args = args
  /-- A receiver that can be reached and the right number of arguments that convert suffice. -/
  ends_well : ∀ x {args}, args.length = f.types.length → Converts (f.types.map .byValue) args →
    ∃ r, (call (a.pack x) args).outcome = .ok r

variable {f a}

/-- **Calls through a frame are direct**, if the frame is ready only with the arguments supplied,
and always when they convert. -/
theorem direct_through (ha : a.Faithful) (carry : BindError → ε)
    (prepared : σ → List Value → Except (Fault ε) Frame)
    (supplies : ∀ s args frame, prepared s args = .ok frame → f.closure.Supplies args frame)
    (ready : ∀ x args, args.length = f.types.length → Converts (f.types.map .byValue) args →
      ∃ frame, prepared (a.pack x) args = .ok frame) :
    f.Direct a (fun s args => f.closure.through a carry (prepared s args) s args)
      (fun s args => (f.closure.through a carry (prepared s args) s args).value) where
  value_eq s args := rfl
  runs_eq := by
    intro s args
    cases hframe : prepared s args with
    | error fault => rfl
    | ok frame =>
      obtain ⟨xs, -, hread⟩ := supplies s args frame hframe
      simp only [Closure.through, Closure.enter_of_readFrame hread]
      cases a.unpack s <;> rfl
  of_ok := by
    intro s args r h
    cases hframe : prepared s args with
    | error fault => rw [hframe] at h; cases h
    | ok frame =>
      obtain ⟨xs, hxs, hread⟩ := supplies s args frame hframe
      simp only [hframe, Closure.through, Closure.enter_of_readFrame hread] at h ⊢
      cases hs : a.unpack s with
      | error e => rw [hs] at h; cases h
      | ok x =>
        simp only [hs] at h ⊢
        cases h
        refine ⟨x, xs, (ha s x).mp hs, ?_, hxs, rfl, rfl⟩
        intro k p hp
        simpa only [Nat.zero_add] using Args.converts_of_supply hxs k p hp
  of_fault := by
    intro s args fault h
    cases hframe : prepared s args with
    | error fault => rfl
    | ok frame =>
      obtain ⟨xs, -, hread⟩ := supplies s args frame hframe
      simp only [hframe, Closure.through, Closure.enter_of_readFrame hread] at h ⊢
      cases hs : a.unpack s with
      | error e => rfl
      | ok x => rw [hs] at h; cases h
  args_eq := by
    intro s args
    cases hframe : prepared s args <;> rfl
  ends_well := by
    intro x args hlen hargs
    obtain ⟨frame, hframe⟩ := ready x args hlen hargs
    obtain ⟨xs, -, hread⟩ := supplies _ args frame hframe
    have hx : a.unpack (a.pack x) = .ok x := (ha _ x).mpr rfl
    simp only [hframe, Closure.through, Closure.enter_of_readFrame hread, hx]
    exact ⟨_, rfl⟩

/-- The account does not depend on how the runs were counted. -/
theorem Direct.recount {counted counted' : σ → List Value → Counted (FrameReply ε σ ρ)}
    {call : σ → List Value → FrameReply ε σ ρ} (h : f.Direct a counted call)
    (hvalue : ∀ s args, (counted' s args).value = call s args)
    (hruns : ∀ s args, (counted' s args).runs = (call s args).outcome.isOk.toNat) :
    f.Direct a counted' call :=
  { h with value_eq := hvalue, runs_eq := hruns }

/-! ### Delegates -/

theorem direct_marshalled (ha : a.Faithful) (variant : Variant) :
    f.Direct a (f.closure.marshalled a variant)
      (fun s args => (f.closure.marshalled a variant s args).value) :=
  direct_through ha _ _ (fun _ _ _ h => Closure.supplies_of_ready h)
    (fun _ _ _ hargs => Closure.ready_of_converts variant hargs)

/-- A call that comes to the function ends well. -/
theorem entered_callFramed (s : σ) (args : List Value) :
    entered (callFramed f.closure.slots (f.closure.framed a) s args).outcome =
      (callFramed f.closure.slots (f.closure.framed a) s args).outcome.isOk := by
  cases hm : marshal args f.closure.slots with
  | error fault =>
    simp only [callFramed, hm]
    exact Closure.not_entered_marshal hm
  | ok values =>
    obtain ⟨xs, hxs, -⟩ := Args.supply_of_marshal_ok hm
    rw [Closure.callFramed_eq_supply, hxs]
    simp only [Closure.runOn]
    cases a.unpack s <;> rfl

/-- A call through a frame leaves the container alone. -/
theorem callFramed_beside (s : σ) (args : List Value) :
    (callFramed f.closure.slots (f.closure.framed a) s args).beside args =
      (f.closure.marshalled a .byValue s args).value := by
  simp only [callFramed, Closure.marshalled, Closure.ready, Closure.slots, Closure.through]
  cases marshal args (Slot.ofFormals .byValue 0 (f.closure.types.map .byValue)) <;> rfl

/-- **Calls that try in place first are direct.**  They end as calls through a frame do. -/
theorem direct_tried (ha : a.Faithful) :
    f.Direct a (f.closure.tried a)
      (fun s args =>
        (callInPlace (some (f.closure.inPlace a)) f.closure.slots (f.closure.framed a) s
          args).beside args) := by
  have hvalue : ∀ s args, (f.closure.tried a s args).value =
      (callInPlace (some (f.closure.inPlace a)) f.closure.slots (f.closure.framed a) s
        args).beside args := fun s args =>
    congrArg (Reply.beside args) (f.closure.call_value a s args)
  have hframed : (fun s args => (f.closure.marshalled a .byValue s args).value) =
      fun s args => (callInPlace (some (f.closure.inPlace a)) f.closure.slots
        (f.closure.framed a) s args).beside args := by
    funext s args
    rw [f.closure.callInPlace_eq_callFramed, callFramed_beside]
  refine (hframed ▸ direct_marshalled ha .byValue).recount hvalue fun s args => ?_
  refine (f.closure.call_runs a s args).trans (congrArg Bool.toNat ?_)
  rw [f.closure.call_value, f.closure.callInPlace_eq_callFramed]
  exact entered_callFramed s args

end Function

/-! ### The ways of a method -/

namespace Method

variable {declaring : TypeTag} {m : Method declaring}

/-- What a reflective call gets ready. -/
def prepared (m : Method declaring) (i : Instance) (args : List Value) :
    Except (Fault BindError) Frame :=
  ((m.prepare i args).map (m.frame args)).mapError .error

/-- The reflective call as a call through a frame. -/
def reflected (m : Method declaring) (f : Closure declaring.Carrier m.result.Carrier)
    (i : Instance) (args : List Value) : Counted (FrameReply BindError Instance Value) :=
  f.boxed.through (.tagged declaring) id (m.prepared i args) i args

section Closure

variable {f : Closure declaring.Carrier m.result.Carrier} (hf : m.body.closure? = some f)

include hf

theorem supplies_of_prepared {i : Instance} {args : List Value} {frame : Frame}
    (h : m.prepared i args = .ok frame) : f.boxed.Supplies args frame := by
  rw [prepared, prepare] at h
  split at h
  · cases hcoerce : coerceArguments m.name m.formals args with
    | error e => rw [hcoerce] at h; cases h
    | ok converted =>
      rw [hcoerce] at h
      cases h
      rw [formals_of_closure? hf] at hcoerce
      exact Closure.supplies_of_marshal _ (marshal_of_coerceArguments .byValue hcoerce)
  · cases h

theorem prepared_of_converts (s : declaring.Carrier) {args : List Value}
    (hlen : args.length = f.types.length) (hargs : Converts (f.types.map .byValue) args) :
    ∃ frame, m.prepared ⟨declaring, s⟩ args = .ok frame := by
  have hformals : m.formals = f.types.map .byValue := formals_of_closure? hf
  have harity : args.length = m.arity := by
    rw [arity, hformals, List.length_map, hlen]
  obtain ⟨converted, hconverted⟩ := coerceEach_of_converts hargs
  refine ⟨m.frame args converted, ?_⟩
  rw [prepared, m.prepare_mk s harity, hformals, hconverted]
  rfl

theorem invoke_of_closure? :
    (fun i args => (m.invoke i args).beside args) = fun i args => (m.reflected f i args).value := by
  funext i args
  rw [invoke, reflected, prepared, erased_of_closure? hf]
  cases m.prepare i args with
  | error e => rfl
  | ok converted => exact congrArg (Reply.beside args) (Reply.mapError_id _).symm

theorem invokeByRef_of_closure? :
    m.invokeByRef = fun i args => (m.reflected f i args).value := by
  funext i args
  have hback : ∀ left, copyBack m.parameters left args = args := fun left => by
    rw [parameters, Parameter.listOf, formals_of_closure? hf]
    exact Closure.copyBack_byValue 0 m.names left args
  rw [invokeByRef, reflected, prepared, erased_of_closure? hf]
  cases m.prepare i args with
  | error e => rfl
  | ok converted =>
    simp only [hback]
    have hreply :
        (f.boxed.framed (.tagged declaring) i (m.frame args converted)).toReply.beside args =
          ((f.boxed.framed (.tagged declaring) i
            (m.frame args converted)).toReply.mapError id).beside args := by
      rw [Reply.mapError_id]
    refine Eq.trans ?_ hreply
    split <;> rfl

end Closure

/-! ### The eight ways -/

section Function

variable {f : Function declaring.Carrier m.result.Carrier}
  (hf : m.body.closure? = some f.closure)

include hf

theorem direct_reflected : f.boxed.Direct (.tagged declaring) (m.reflected f.closure)
    (fun i args => (m.reflected f.closure i args).value) :=
  Function.direct_through (Packing.tagged_faithful declaring) id m.prepared
    (fun _ _ _ h => supplies_of_prepared hf h)
    (fun x _ hlen hargs => prepared_of_converts hf x hlen hargs)

theorem slots_byRef_of_closure? :
    m.slots .byRef = Slot.ofFormals .byRef 0 (f.types.map .byValue) :=
  congrArg (Slot.ofFormals .byRef 0) (formals_of_closure? hf)

theorem direct_compile : ∃ d, m.compile = .ok d ∧
    f.boxed.Direct (.tagged declaring) (f.boxed.closure.tried (.tagged declaring))
      (fun i args => (d.call i args).beside args) := by
  obtain ⟨plan, hplan⟩ := m.exists_compile
  refine ⟨_, hplan, ?_⟩
  rw [inPlaceErased?_of_closure? hf, erased_of_closure? hf, slots_of_closure? hf]
  exact Function.direct_tried (Packing.tagged_faithful declaring)

theorem direct_compileTyped_any : ∃ d, m.compileTyped declaring .any = .ok d ∧
    f.boxed.Direct (.bare _) (f.boxed.closure.tried (.bare _))
      (fun s args => (d.call s args).beside args) := by
  obtain ⟨plan, hplan⟩ := m.exists_compileTyped_any
  refine ⟨_, hplan, ?_⟩
  rw [inPlaceWidened?_of_closure? hf, widened_of_closure? hf, slots_of_closure? hf]
  exact Function.direct_tried (Packing.bare_faithful _)

theorem direct_compileTyped_result : ∃ d, m.compileTyped declaring m.result = .ok d ∧
    f.Direct (.bare _) (f.closure.tried (.bare _)) (fun s args => (d.call s args).beside args) := by
  obtain ⟨plan, hplan⟩ := m.exists_compileTyped_result
  refine ⟨_, hplan, ?_⟩
  rw [inPlace?_of_closure? hf, framed_of_closure? hf, slots_of_closure? hf]
  exact Function.direct_tried (Packing.bare_faithful _)

theorem direct_compileByRef : ∃ d, m.compileByRef = .ok d ∧
    f.boxed.Direct (.tagged declaring) (f.boxed.closure.marshalled (.tagged declaring) .byRef)
      d.call := by
  obtain ⟨plan, hplan⟩ := m.exists_compileByRef
  refine ⟨_, hplan, ?_⟩
  have hcall := f.boxed.closure.callByRef_eq_marshalled (.tagged declaring)
  rw [erased_of_closure? hf, slots_byRef_of_closure? hf]
  exact hcall ▸ Function.direct_marshalled (Packing.tagged_faithful declaring) .byRef

theorem direct_compileByRefTyped_any : ∃ d, m.compileByRefTyped declaring .any = .ok d ∧
    f.boxed.Direct (.bare _) (f.boxed.closure.marshalled (.bare _) .byRef) d.call := by
  obtain ⟨plan, hplan⟩ := m.exists_compileByRefTyped_any
  refine ⟨_, hplan, ?_⟩
  have hcall := f.boxed.closure.callByRef_eq_marshalled (.bare declaring.Carrier)
  rw [widened_of_closure? hf, slots_byRef_of_closure? hf]
  exact hcall ▸ Function.direct_marshalled (Packing.bare_faithful _) .byRef

theorem direct_compileByRefTyped_result : ∃ d, m.compileByRefTyped declaring m.result = .ok d ∧
    f.Direct (.bare _) (f.closure.marshalled (.bare _) .byRef) d.call := by
  obtain ⟨plan, hplan⟩ := m.exists_compileByRefTyped_result
  refine ⟨_, hplan, ?_⟩
  have hcall := f.closure.callByRef_eq_marshalled (.bare declaring.Carrier)
  rw [framed_of_closure? hf, slots_byRef_of_closure? hf]
  exact hcall ▸ Function.direct_marshalled (Packing.bare_faithful _) .byRef

end Function

end Method

/-- **Every way to a method given by a function is one run of it, or nothing.**  A reflective call,
with and without write-back, and the calls of all delegates end well only on a receiver of the
declaring type and on arguments that convert, and then they are one run on the old state and the
converted arguments; otherwise nothing has run and nothing has changed.  They do end well on such a
receiver with such arguments, if the number of these is right. -/
theorem oneRun_or_nothing {declaring : TypeTag} (m : Method declaring)
    {f : Function declaring.Carrier m.result.Carrier} (hf : m.body.closure? = some f.closure) :
    f.boxed.Direct (.tagged declaring) (m.reflected f.closure)
      (fun i args => (m.invoke i args).beside args) ∧
    f.boxed.Direct (.tagged declaring) (m.reflected f.closure) m.invokeByRef ∧
    (∃ d, m.compile = .ok d ∧
      f.boxed.Direct (.tagged declaring) (f.boxed.closure.tried (.tagged declaring))
        fun i args => (d.call i args).beside args) ∧
    (∃ d, m.compileTyped declaring .any = .ok d ∧
      f.boxed.Direct (.bare _) (f.boxed.closure.tried (.bare _)) fun s args =>
        (d.call s args).beside args) ∧
    (∃ d, m.compileTyped declaring m.result = .ok d ∧
      f.Direct (.bare _) (f.closure.tried (.bare _)) fun s args => (d.call s args).beside args) ∧
    (∃ d, m.compileByRef = .ok d ∧
      f.boxed.Direct (.tagged declaring) (f.boxed.closure.marshalled (.tagged declaring) .byRef)
        d.call) ∧
    (∃ d, m.compileByRefTyped declaring .any = .ok d ∧
      f.boxed.Direct (.bare _) (f.boxed.closure.marshalled (.bare _) .byRef) d.call) ∧
    (∃ d, m.compileByRefTyped declaring m.result = .ok d ∧
      f.Direct (.bare _) (f.closure.marshalled (.bare _) .byRef) d.call) := by
  have hreflected := Method.direct_reflected hf
  refine ⟨?_, ?_, Method.direct_compile hf, Method.direct_compileTyped_any hf,
    Method.direct_compileTyped_result hf, Method.direct_compileByRef hf,
    Method.direct_compileByRefTyped_any hf, Method.direct_compileByRefTyped_result hf⟩
  · rw [Method.invoke_of_closure? hf]
    exact hreflected
  · rw [Method.invokeByRef_of_closure? hf]
    exact hreflected

/-- The subject is reset by a literal and a text in one run, whoever calls; a number in the place of
the text is no run, and leaves the subject as it was. -/
theorem oneRun_or_nothing_reset :
    ∃ f : Function Subject.type.Carrier Subject.methods[2].result.Carrier,
      Subject.methods[2].body.closure? = some f.closure ∧
      (∃ d, Subject.methods[2].compile = .ok d ∧
        d.call ⟨Subject.type, Subject.make "x"⟩ [.boxed (.leaf .literal "a"), .text "b"] =
          ⟨⟨Subject.type, Subject.make "a/b"⟩, .ok .null⟩ ∧
        (f.boxed.closure.tried (.tagged Subject.type) ⟨Subject.type, Subject.make "x"⟩
          [.boxed (.leaf .literal "a"), .text "b"]).runs = 1) ∧
      (Subject.methods[2].reflected f.closure ⟨Subject.type, Subject.make "x"⟩
        [.text "a", .boxed (.leaf .bool true)]).runs = 0 ∧
      (Subject.methods[2].invokeByRef ⟨Subject.type, Subject.make "x"⟩
        [.text "a", .boxed (.leaf .bool true)]).receiver = ⟨Subject.type, Subject.make "x"⟩ := by
  let reset : Function Subject.type.Carrier Subject.methods[2].result.Carrier :=
    ⟨[.text, .text], fun _ texts => (Subject.reset texts.1 texts.2.1, ())⟩
  have hf : Subject.methods[2].body.closure? = some reset.closure := rfl
  obtain ⟨-, hbyRef, ⟨d, hd, hcall⟩, -⟩ := oneRun_or_nothing Subject.methods[2] hf
  have hreset := congrArg FrameReply.toReply
    (hcall.value_eq ⟨Subject.type, Subject.make "x"⟩ [.boxed (.leaf .literal "a"), .text "b"])
  have hfails : (Subject.methods[2].invokeByRef ⟨Subject.type, Subject.make "x"⟩
      [.text "a", .boxed (.leaf .bool true)]).outcome =
        .error (.error (.typeMismatch "String" "bool")) := rfl
  refine ⟨reset, hf, ⟨d, hd, hreset.symm.trans rfl, ?_⟩, ?_, hbyRef.of_fault hfails⟩
  · rw [hcall.runs_eq, ← hcall.value_eq]
    rfl
  · rw [hbyRef.runs_eq, hfails]
    rfl

end LateBinding
