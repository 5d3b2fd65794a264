import LateBinding.Proofs.Acceptance
import LateBinding.Proofs.Runs
import LateBinding.Proofs.Shortfall

/-!
# Arity: too many arguments, and too few

A delegate does not count its arguments.  Those in excess are not looked at, by the call or by what
it writes back.  Where one is missing the call is over before anything has happened, and what it
reports depends on the arguments that are there.  A reflective call does count, and goes no further
when the number is wrong.

* `ExactArity`, `exactArity_byValue`, `Method.exactArity_byRef` — the account of a delegate, and
  that calls through a frame and calls with write-back are accounted for by it;
* `Method.callByRef_take` — the container of a call with arguments in excess;
* `ChecksArity`, `Method.checksArity`, `Constructor.checksArity` — the account of a reflective call;
* `arity_exact` — all ways to call a method and a constructor.
-/

namespace LateBinding

/-! ### Delegates -/

section Delegates

variable {σ ρ : Type}

/-- A way to call that does not count its arguments, and is exact about their number all the
same. -/
structure ExactArity (formals : List Formal)
    (counted : σ → List Value → Counted (FrameReply DelegateError σ ρ))
    (call : σ → List Value → FrameReply DelegateError σ ρ) : Prop where
  /-- What is counted are the runs of this call. -/
  value_eq : ∀ s args, (counted s args).value = call s args
  /-- With arguments in excess receiver and outcome are those of the call on the first ones. -/
  reply_take : ∀ s {args}, formals.length ≤ args.length →
    (call s args).toReply = (call s (args.take formals.length)).toReply
  /-- So is the container as far as there are parameters, and behind them it is left alone. -/
  args_take : ∀ s {args}, formals.length ≤ args.length →
    (call s args).args.take formals.length = (call s (args.take formals.length)).args ∧
    (call s args).args.drop formals.length = args.drop formals.length
  /-- Where arguments are missing nothing runs and nothing changes, and what is reported does not
  depend on the receiver. -/
  short : ∀ {args}, args.length < formals.length → ∃ fault, Shortfall formals args fault ∧
    ∀ s, counted s args = ⟨.stopped s args fault, 0⟩

variable {formals : List Formal} {entry : Entry σ ρ}
  {counted : σ → List Value → Counted (FrameReply DelegateError σ ρ)}
  {call : σ → List Value → FrameReply DelegateError σ ρ}

theorem Accounts.short {variant : Variant}
    (h : Accounts (fun _ args => marshal args (Slot.ofFormals variant 0 formals)) counted call)
    {args : List Value} (hlen : args.length < formals.length) :
    ∃ fault, Shortfall formals args fault ∧ ∀ s, counted s args = ⟨.stopped s args fault, 0⟩ := by
  obtain ⟨fault, hfault, hmarshal⟩ := marshal_of_short variant hlen
  exact ⟨fault, hfault, fun s => h.stops hmarshal⟩

/-- **Calls through a frame are exact about their arguments.** -/
theorem exactArity_byValue
    (h : Accounts (fun _ args => marshal args (Slot.ofFormals .byValue 0 formals)) counted
      fun s args => (callFramed (Slot.ofFormals .byValue 0 formals) entry s args).beside args) :
    ExactArity formals counted
      fun s args => (callFramed (Slot.ofFormals .byValue 0 formals) entry s args).beside args where
  value_eq := h.value_eq
  reply_take := by
    intro s args hlen
    simp only [Reply.beside, callFramed, marshal_take .byValue hlen, renewed_take .byValue]
  args_take := fun s args _ => ⟨rfl, rfl⟩
  short := h.short

end Delegates

namespace Method

variable {declaring : TypeTag} (m : Method declaring)

section ByRef

variable {σ ρ : Type} {entry : Entry σ ρ}

/-- The container of a call with arguments in excess. -/
theorem callByRef_take (s : σ) {args : List Value} (hlen : m.arity ≤ args.length) :
    callByRef (m.slots .byRef) entry s args =
      (callByRef (m.slots .byRef) entry s (args.take m.arity)).toReply.beside
        ((callByRef (m.slots .byRef) entry s (args.take m.arity)).args ++ args.drop m.arity) := by
  have hroom : m.arity = (args.take m.arity).length := (List.length_take_of_le hlen).symm
  have hframe : marshal (args.take m.arity) (m.slots .byRef) = marshal args (m.slots .byRef) :=
    marshal_take .byRef hlen
  have hsplit : args.take m.arity ++ args.drop m.arity = args := List.take_append_drop _ _
  rw [m.callByRef_of_room entry s hlen, m.callByRef_of_room entry s (Nat.le_of_eq hroom), hframe]
  cases marshal args (m.slots .byRef) with
  | error fault => simp only [FrameReply.stopped, Reply.beside, hsplit]
  | ok values =>
    simp only [frame, arity, renewedFor_take]
    cases (entry s ⟨values, renewedFor m.formals args⟩).outcome with
    | error fault => exact congrArg (Reply.beside · _) hsplit.symm
    | ok result =>
      have hcopy := copyBack_append (args.drop m.arity) m.names
        (entry s ⟨values, renewedFor m.formals args⟩).args
        (Nat.le_of_eq ((Nat.zero_add m.formals.length).trans hroom))
      rw [hsplit] at hcopy
      exact congrArg (Reply.beside · _) hcopy

theorem length_callByRef (s : σ) {args : List Value} (hlen : m.arity ≤ args.length) :
    (callByRef (m.slots .byRef) entry s args).args.length = args.length := by
  rw [m.callByRef_of_room entry s hlen]
  cases marshal args (m.slots .byRef) with
  | error fault => rfl
  | ok values =>
    simp only
    cases (entry s (m.frame args values)).outcome with
    | error fault => rfl
    | ok result => exact length_copyBack m.parameters _ args

/-- **So are calls with write-back.** -/
theorem exactArity_byRef {counted : σ → List Value → Counted (FrameReply DelegateError σ ρ)}
    (h : Accounts (fun _ args => marshal args (m.slots .byRef)) counted
      (callByRef (m.slots .byRef) entry)) :
    ExactArity m.formals counted (callByRef (m.slots .byRef) entry) where
  value_eq := h.value_eq
  reply_take := by
    intro s args hlen
    rw [m.callByRef_take s hlen]
    rfl
  args_take := by
    intro s args hlen
    have hfirst : (args.take m.arity).length = m.arity := List.length_take_of_le hlen
    have hkept : (callByRef (m.slots .byRef) entry s (args.take m.arity)).args.length =
        m.formals.length :=
      (m.length_callByRef s (Nat.le_of_eq hfirst.symm)).trans hfirst
    rw [m.callByRef_take s hlen]
    exact ⟨List.take_left' hkept, List.drop_left' hkept⟩
  short := h.short

end ByRef

section Compiled

variable {σ ρ : Type} {a : Packing σ declaring.Carrier} {entry : Entry σ ρ} {m}
  {g : Closure declaring.Carrier m.result.Carrier → Closure declaring.Carrier ρ}

/-- A request for a delegate by value, which is met whatever the body. -/
theorem exactArity_of_callFramed {request : Except Refusal (MethodDelegate σ ρ)}
    (hframed : ∃ plan, request = .ok ⟨plan, callFramed (m.slots .byValue) entry⟩)
    (hentry : ∀ {f}, m.body.closure? = some f → entry = (g f).framed a ∧ (g f).types = f.types) :
    ∃ d, request = .ok d ∧
      ExactArity m.formals (m.delegated a .byValue entry fun f => (g f).tried a)
        fun s args => (d.call s args).beside args := by
  obtain ⟨plan, hplan⟩ := hframed
  exact ⟨_, hplan, exactArity_byValue (accounts_byValue hentry)⟩

/-- A request for a delegate with write-back. -/
theorem exactArity_of_callByRef {request : Except Refusal (RefMethodDelegate σ ρ)}
    (hframed : ∃ plan, request = .ok ⟨plan, callByRef (m.slots .byRef) entry⟩)
    (hentry : ∀ {f}, m.body.closure? = some f → entry = (g f).framed a ∧ (g f).types = f.types) :
    ∃ d, request = .ok d ∧
      ExactArity m.formals (m.delegated a .byRef entry fun f => (g f).marshalled a .byRef)
        d.call := by
  obtain ⟨plan, hplan⟩ := hframed
  exact ⟨_, hplan, m.exactArity_byRef (accounts_byRef hentry)⟩

end Compiled

end Method

namespace Constructor

variable {declaring : TypeTag} (c : Constructor declaring)

theorem called_construct {ρ : Type} (slots : List Slot)
    (entry : List Value → Except (Fault BindError) ρ) :
    called (construct slots entry) =
      fun s args => (callFramed slots (asCall entry) s args).beside args := by
  rw [callFramed_asCall]
  rfl

theorem exactArity_compile : ∃ d, c.compile = .ok d ∧
    ExactArity c.formals (c.closure.boxed.tried (.bare Unit)) (called d.call) := by
  obtain ⟨plan, hplan⟩ := c.exists_compile_framed
  refine ⟨_, hplan, ?_⟩
  rw [called_construct, c.asCall_erased]
  exact exactArity_byValue (c.closure.boxed.accounts_tried (.bare Unit))

theorem exactArity_compileTyped : ∃ d, c.compileTyped declaring = .ok d ∧
    ExactArity c.formals (c.closure.tried (.bare Unit)) (called d.call) := by
  obtain ⟨plan, hplan⟩ := c.exists_compileTyped
  refine ⟨_, hplan, ?_⟩
  rw [c.constructInPlace_framed, called_construct, c.asCall_framed]
  exact exactArity_byValue (c.closure.accounts_tried (.bare Unit))

end Constructor

/-! ### Reflective calls -/

/-- A way to call that counts its arguments first.  `pack` gives the receivers of the declaring
type, and `raises` says which faults are the member's own, given the arguments before and after
their conversion. -/
structure ChecksArity {σ τ ρ : Type} (member : String) (formals : List Formal) (pack : τ → σ)
    (raises : List Value → List Value → τ → Fault BindError → Prop)
    (counted : σ → List Value → Counted (FrameReply BindError σ ρ))
    (call : σ → List Value → FrameReply BindError σ ρ) : Prop where
  /-- What is counted are the runs of this call. -/
  value_eq : ∀ s args, (counted s args).value = call s args
  /-- A wrong number is refused.  Nothing runs and nothing changes. -/
  refuses : ∀ x {args}, args.length ≠ formals.length → counted (pack x) args =
    ⟨.stopped (pack x) args (.error (.argumentCount member formals.length args.length)), 0⟩
  /-- A read past the end is the member's own, in a frame with all its arguments. -/
  in_bounds : ∀ {x args length index},
    (call (pack x) args).outcome = .error (.outOfBounds length index) →
      ∃ converted, coerceArguments member formals args = .ok converted ∧
        raises args converted x (.outOfBounds length index)

theorem coerceArguments_of_length_ne (member : String) {formals : List Formal} {args : List Value}
    (h : args.length ≠ formals.length) :
    coerceArguments member formals args =
      .error (.argumentCount member formals.length args.length) := if_neg h

namespace Method

variable {declaring : TypeTag} (m : Method declaring)

theorem toReply_invokeByRef (i : Instance) (args : List Value) :
    (m.invokeByRef i args).toReply = m.invoke i args := by
  rw [invokeByRef, invoke]
  cases m.prepare i args with
  | error e => rfl
  | ok converted =>
    simp only
    split <;> rfl

theorem prepared_of_length_ne (s : declaring.Carrier) {args : List Value}
    (h : args.length ≠ m.formals.length) :
    m.prepared ⟨declaring, s⟩ args =
      .error (.error (.argumentCount m.name m.formals.length args.length)) := by
  rw [prepared, prepare, if_pos rfl, coerceArguments_of_length_ne m.name h]
  rfl

/-- A reflective call of its own never reads past the end. -/
theorem raises_of_invoke {s : declaring.Carrier} {args : List Value} {length index : Nat}
    (h : (m.invoke ⟨declaring, s⟩ args).outcome = .error (.outOfBounds length index)) :
    ∃ converted, coerceArguments m.name m.formals args = .ok converted ∧
      m.Raises args converted s (.outOfBounds length index) := by
  cases hconverted : coerceArguments m.name m.formals args with
  | error e =>
    rw [invoke, prepare, if_pos rfl, hconverted] at h
    cases h
  | ok converted =>
    rw [invoke_of_coerced hconverted] at h
    exact ⟨converted, rfl, raises_of_widened hconverted h⟩

variable {m}

/-- **Reflective calls of a method check the number of its arguments.** -/
theorem checksArity
    {counted : Instance → List Value → Counted (FrameReply BindError Instance Value)}
    {call : Instance → List Value → FrameReply BindError Instance Value}
    (h : Accounts m.prepared counted call)
    (hreply : ∀ i args, (call i args).toReply = m.invoke i args) :
    ChecksArity m.name m.formals (Sigma.mk declaring) m.Raises counted call where
  value_eq := h.value_eq
  refuses := fun s _ hlen => h.stops (m.prepared_of_length_ne s hlen)
  in_bounds := by
    intro s args length index hfault
    refine m.raises_of_invoke ?_
    rw [← hreply]
    exact hfault

end Method

namespace Constructor

variable {declaring : TypeTag} (c : Constructor declaring)

/-- A reflective construction never reads past the end. -/
theorem invoke_ne_outOfBounds (args : List Value) (length index : Nat) :
    c.invoke args ≠ .error (.outOfBounds length index) := by
  intro hfault
  cases hconverted : coerceArguments s!"{declaring.name}::new" c.formals args with
  | error e =>
    rw [invoke, invokeBy, hconverted] at hfault
    cases hfault
  | ok converted =>
    obtain ⟨xs, -, hinvoke⟩ :=
      invoke_of_accepts ((accepts_iff_coerceArguments _).mpr ⟨converted, hconverted⟩)
    rw [hinvoke] at hfault
    cases hend : c.run xs <;> rw [hend] at hfault <;> cases hfault

/-- **Reflective constructions check the number of the arguments.** -/
theorem checksArity :
    ChecksArity s!"{declaring.name}::new" c.formals (fun s : Unit => s) (fun _ _ _ _ => False)
      c.reflected (called c.invoke) where
  value_eq := c.accounts_invoke.value_eq
  refuses := by
    intro s args hlen
    refine c.accounts_invoke.stops ?_
    rw [prepared, coerceArguments_of_length_ne _ hlen]
    rfl
  in_bounds := fun hfault => absurd hfault (c.invoke_ne_outOfBounds _ _ _)

end Constructor

/-- **The number of arguments is dealt with exactly, by every way to call.**  A delegate, of
whatever types and variant, takes no notice of arguments in excess: receiver, outcome and the
positions of the parameters are left as by the call on the first arguments, and the positions behind
them as they were.  Where arguments are missing nothing is run and nothing is changed, and what is
reported, with any receiver, is the first of the others that does not convert, or else a read past
the end at the first that is missing.  A reflective call on a receiver of the declaring type, and a
reflective construction, refuse every wrong number, and never read or write past the end on their
own. -/
theorem arity_exact {declaring : TypeTag} (m : Method declaring) (c : Constructor declaring) :
    (∃ d, m.compile = .ok d ∧
      ExactArity m.formals
        (m.delegated (.tagged declaring) .byValue m.erased
          fun f => f.boxed.tried (.tagged declaring))
        fun i args => (d.call i args).beside args) ∧
    (∃ d, m.compileTyped declaring .any = .ok d ∧
      ExactArity m.formals
        (m.delegated (.bare _) .byValue m.widened fun f => f.boxed.tried (.bare _))
        fun s args => (d.call s args).beside args) ∧
    (∃ d, m.compileTyped declaring m.result = .ok d ∧
      ExactArity m.formals
        (m.delegated (.bare _) .byValue m.framed fun f => f.tried (.bare _))
        fun s args => (d.call s args).beside args) ∧
    (∃ d, m.compileByRef = .ok d ∧
      ExactArity m.formals
        (m.delegated (.tagged declaring) .byRef m.erased
          fun f => f.boxed.marshalled (.tagged declaring) .byRef) d.call) ∧
    (∃ d, m.compileByRefTyped declaring .any = .ok d ∧
      ExactArity m.formals
        (m.delegated (.bare _) .byRef m.widened fun f => f.boxed.marshalled (.bare _) .byRef)
        d.call) ∧
    (∃ d, m.compileByRefTyped declaring m.result = .ok d ∧
      ExactArity m.formals
        (m.delegated (.bare _) .byRef m.framed fun f => f.marshalled (.bare _) .byRef) d.call) ∧
    (∃ d, c.compile = .ok d ∧
      ExactArity c.formals (c.closure.boxed.tried (.bare Unit)) (Constructor.called d.call)) ∧
    (∃ d, c.compileTyped declaring = .ok d ∧
      ExactArity c.formals (c.closure.tried (.bare Unit)) (Constructor.called d.call)) ∧
    ChecksArity m.name m.formals (Sigma.mk declaring) m.Raises
      (m.accounted (.tagged declaring) id .byValue m.erased m.prepared m.reflected)
      (fun i args => (m.invoke i args).beside args) ∧
    ChecksArity m.name m.formals (Sigma.mk declaring) m.Raises
      (m.accounted (.tagged declaring) id .byRef m.erased m.prepared m.reflected) m.invokeByRef ∧
    (∀ p ∈ m.parameters, p.position < m.arity) ∧
    ChecksArity s!"{declaring.name}::new" c.formals (fun s : Unit => s) (fun _ _ _ _ => False)
      c.reflected (Constructor.called c.invoke) := by
  have herased : ∀ {f}, m.body.closure? = some f →
      m.erased = f.boxed.framed (.tagged declaring) ∧ f.boxed.types = f.types :=
    fun hf => ⟨Method.erased_of_closure? hf, rfl⟩
  have hwidened : ∀ {f}, m.body.closure? = some f →
      m.widened = f.boxed.framed (.bare _) ∧ f.boxed.types = f.types :=
    fun hf => ⟨Method.widened_of_closure? hf, rfl⟩
  have hframed : ∀ {f}, m.body.closure? = some f →
      m.framed = f.framed (.bare _) ∧ f.types = f.types :=
    fun hf => ⟨Method.framed_of_closure? hf, rfl⟩
  refine ⟨Method.exactArity_of_callFramed m.exists_compile_framed herased,
    Method.exactArity_of_callFramed m.exists_compileTyped_any_framed hwidened,
    Method.exactArity_of_callFramed m.exists_compileTyped_result_framed hframed,
    Method.exactArity_of_callByRef m.exists_compileByRef herased,
    Method.exactArity_of_callByRef m.exists_compileByRefTyped_any hwidened,
    Method.exactArity_of_callByRef m.exists_compileByRefTyped_result hframed,
    c.exactArity_compile, c.exactArity_compileTyped,
    Method.checksArity m.accounts_invoke fun _ _ => rfl,
    Method.checksArity m.accounts_invokeByRef m.toReply_invokeByRef, ?_, c.checksArity⟩
  intro p hp
  have hposition := position_listFrom m.names p hp
  rw [Nat.zero_add] at hposition
  exact hposition

/-- A third argument is left alone, and the other two get the suffix.  With one argument nothing
happens: a text is followed by a read past the end, a truth value is reported itself, both before
the foreign receiver is.  The reflective call reports the number. -/
theorem arity_exact_appendSuffix :
    ∃ d, Subject.methods[3].compileByRef = .ok d ∧
      (d.call ⟨Subject.type, Subject.make "x"⟩
          [.ofCarrier .literal "a", .text "b", .ofCarrier .char 'z']).args.take 2 =
        [.text "a:end", .text "b:end"] ∧
      (d.call ⟨Subject.type, Subject.make "x"⟩
          [.ofCarrier .literal "a", .text "b", .ofCarrier .char 'z']).args.drop 2 =
        [.ofCarrier .char 'z'] ∧
      d.call ⟨.text, "x"⟩ [.text "a"] =
        .stopped ⟨.text, "x"⟩ [.text "a"] (.outOfBounds 1 1) ∧
      d.call ⟨.text, "x"⟩ [.ofCarrier .bool true] =
        .stopped ⟨.text, "x"⟩ [.ofCarrier .bool true] (.error (.typeMismatch "String" "bool")) ∧
      Subject.methods[3].invokeByRef ⟨Subject.type, Subject.make "x"⟩ [.text "a"] =
        .stopped ⟨Subject.type, Subject.make "x"⟩ [.text "a"]
          (.error (.argumentCount "append_suffix" 2 1)) := by
  obtain ⟨-, -, -, ⟨d, hd, hexact⟩, -, -, -, -, -, hchecks, -⟩ :=
    arity_exact Subject.methods[3] Subject.constructor
  obtain ⟨hfirst, hrest⟩ := hexact.args_take ⟨Subject.type, Subject.make "x"⟩
    (by decide : Subject.methods[3].formals.length ≤
      [Value.ofCarrier .literal "a", .text "b", .ofCarrier .char 'z'].length)
  -- what is reported of one argument, whoever the receiver is
  have hshort : ∀ arg, ∃ fault, Shortfall Subject.methods[3].formals [arg] fault ∧
      d.call ⟨.text, "x"⟩ [arg] = .stopped ⟨.text, "x"⟩ [arg] fault := by
    intro arg
    have hlen : [arg].length < Subject.methods[3].formals.length := Nat.lt_succ_self 1
    obtain ⟨fault, hfault, hcounted⟩ := hexact.short hlen
    have hcall := congrArg Counted.value (hcounted ⟨.text, "x"⟩)
    rw [hexact.value_eq] at hcall
    exact ⟨fault, hfault, hcall⟩
  refine ⟨d, hd, ?_, hrest, ?_, ?_, ?_⟩
  · refine hfirst.trans ?_
    cases hd
    rfl
  · obtain ⟨fault, hfault, hcall⟩ := hshort (.text "a")
    cases hfault with
    | missing converts => exact hcall
    | @mismatch k p arg first =>
      obtain ⟨hp, harg, hfails, -⟩ := first
      cases k with
      | zero => cases hp; cases harg; cases hfails
      | succ k => cases harg
  · obtain ⟨fault, hfault, hcall⟩ := hshort (.ofCarrier .bool true)
    cases hfault with
    | missing converts =>
      obtain ⟨arg, harg, hconverts⟩ := converts 0 _ rfl
      cases harg
      cases hconverts
    | @mismatch k p arg first =>
      obtain ⟨hp, harg, -, -⟩ := first
      cases k with
      | zero => cases hp; cases harg; exact hcall
      | succ k => cases harg
  · have hcall := congrArg Counted.value (hchecks.refuses (Subject.make "x")
      (by decide : [Value.text "a"].length ≠ Subject.methods[3].formals.length))
    rw [hchecks.value_eq] at hcall
    exact hcall

end LateBinding
