import LateBinding.Proofs.Container

/-!
# Variants: a delegate with and without write-back

A method is compiled in two variants.  By value it takes a list of arguments, which it reads in
place where it can; with write-back it takes a container, and always reads it through a frame.  The
two make the same calls, and differ in nothing but what is left in the container.

* `marshal_variant` — both variants find the same frame, or fail with the same fault;
* `Member.plan_variant` — both are planned, or refused for the same reason;
* `Method.toReply_callByRef` — a call with write-back, its container put aside, is a call by value;
* `Method.copyBack_of_hasByRef`, `Method.args_callByRef` — the container of a method that passes
  nothing by reference;
* `Method.SameCalls`, `Method.CompiledAlike` — delegates that make the same calls, and the two
  outcomes of one request;
* `byValue_eq_byRef` — the variants of all levels.
-/

namespace LateBinding

/-! ### Frames and plans of the two variants -/

/-- **The variant does not matter for the frame**, nor for the fault when there is none. -/
theorem marshal_variant (variant variant' : Variant) (args : List Value) {formals : List Formal} :
    ∀ i, marshal args (Slot.ofFormals variant i formals) =
      marshal args (Slot.ofFormals variant' i formals) := by
  induction formals with
  | nil => intro i; rfl
  | cons p ps ih =>
    intro i
    rw [marshal_ofFormals_cons, marshal_ofFormals_cons, ih (i + 1)]

namespace Member

variable {declaring : TypeTag} (member : Member declaring) {I R : TypeTag}

/-- Values are exchanged in one variant if they are in the other: the variant decides about the
arguments alone, and these are never refused. -/
theorem exchange_variant (variant variant' : Variant) :
    (∃ refusal, member.exchange R variant = .error refusal ∧
      member.exchange R variant' = .error refusal) ∨
    ∃ arguments arguments' result, member.exchange R variant = .ok (arguments, result) ∧
      member.exchange R variant' = .ok (arguments', result) := by
  cases member with
  | setter p =>
    cases h : (setter p).exchange R variant with
    | error refusal => exact .inl ⟨refusal, rfl, h⟩
    | ok exchanged => exact .inr ⟨exchanged.1, exchanged.1, exchanged.2, rfl, h⟩
  | constructor | method | getter =>
    simp only [exchange]
    generalize resultHandling R _ = handling
    cases handling with
    | error refusal => exact .inl ⟨refusal, rfl, rfl⟩
    | ok result => exact .inr ⟨_, _, result, rfl, rfl⟩

/-- **What is refused in one variant is refused in the other**, for the same reason.  What is
planned in one is planned in the other, and the two plans are refused in the same words if there is
no entry for their types. -/
theorem plan_variant (variant variant' : Variant) :
    (∃ refusal, member.plan I R variant = .error refusal ∧
      member.plan I R variant' = .error refusal) ∨
    ∃ plan plan', member.plan I R variant = .ok plan ∧ member.plan I R variant' = .ok plan' ∧
      plan'.noEntry = plan.noEntry := by
  simp only [plan]
  cases member.checkAccessor with
  | error refusal => exact .inl ⟨refusal, rfl, rfl⟩
  | ok checked =>
    cases member.receiverAccess I with
    | error refusal => exact .inl ⟨refusal, rfl, rfl⟩
    | ok receiver =>
      obtain ⟨refusal, h, h'⟩ | ⟨arguments, arguments', result, h, h'⟩ :=
        member.exchange_variant (R := R) variant variant'
      · simp only [h, h']
        exact .inl ⟨refusal, rfl, rfl⟩
      · simp only [h, h']
        exact .inr ⟨_, _, rfl, rfl, rfl⟩

end Member

/-! ### Calls of the two variants -/

namespace Method

variable {declaring : TypeTag} (m : Method declaring)

/-- A container that is marshalled has room for all parameters. -/
theorem arity_le_of_marshal {variant : Variant} {args frame : List Value}
    (h : marshal args (m.slots variant) = .ok frame) : m.arity ≤ args.length :=
  (coerced_of_marshal h).converts.length_le

section Calls

variable {σ ρ : Type} (entry : Entry σ ρ) (s : σ) (args : List Value)

/-- **A call with write-back, its container put aside, is a call by value.**  In particular writing
back never fails. -/
theorem toReply_callByRef :
    (callByRef (m.slots .byRef) entry s args).toReply =
      callFramed (m.slots .byValue) entry s args := by
  have hvariant : marshal args (m.slots .byValue) = marshal args (m.slots .byRef) :=
    marshal_variant .byValue .byRef args 0
  rw [callFramed, hvariant]
  cases hvalues : marshal args (m.slots .byRef) with
  | error fault => rw [callByRef, hvalues]; rfl
  | ok values =>
    rw [m.callByRef_of_room entry s (m.arity_le_of_marshal hvalues), hvalues]
    simp only [← m.frame_eq .byValue]
    split <;> rfl

/-- Where nothing is passed by reference nothing is copied back. -/
theorem copyBack_of_hasByRef (h : m.hasByRef = false) (frame : List Value) :
    copyBack m.parameters frame args = args := by
  refine List.ext_getElem? fun k => getElem?_copyBack_kept m.names frame args ?_
  intro j p _ hp
  rw [hasByRef, List.any_eq_false] at h
  exact Bool.eq_false_iff.mpr (h p (List.mem_of_getElem? hp))

/-- **A method that passes nothing by reference leaves the container as it is**, however the call
ends. -/
theorem args_callByRef (h : m.hasByRef = false) :
    (callByRef (m.slots .byRef) entry s args).args = args := by
  cases hvalues : marshal args (m.slots .byRef) with
  | error fault => rw [callByRef, hvalues]; rfl
  | ok values =>
    rw [m.callByRef_of_room entry s (m.arity_le_of_marshal hvalues), hvalues]
    simp only
    split
    · rfl
    · exact m.copyBack_of_hasByRef args h (entry s (m.frame args values)).args

end Calls

/-! ### Delegates of the two variants -/

/-- A delegate by value and one with write-back that make the same calls, with any receiver and any
number of arguments. -/
structure SameCalls {σ ρ : Type} (d : MethodDelegate σ ρ) (d' : RefMethodDelegate σ ρ) : Prop where
  /-- The receiver is left in the same state, and the result, the error or the panic is the same. -/
  reply_eq : ∀ s args, (d'.call s args).toReply = d.call s args
  /-- The container is left as it is if no parameter is passed by reference. -/
  args_eq : m.hasByRef = false → ∀ s args, (d'.call s args).args = args

/-- Then the call with write-back is the call by value beside the container. -/
theorem SameCalls.call_eq {m : Method declaring} {σ ρ : Type} {d : MethodDelegate σ ρ}
    {d' : RefMethodDelegate σ ρ} (h : m.SameCalls d d') (href : m.hasByRef = false) (s : σ)
    (args : List Value) : d'.call s args = (d.call s args).beside args := by
  have hparts : FrameReply.mk (d'.call s args).toReply (d'.call s args).args =
      FrameReply.mk (d.call s args) args := by rw [h.reply_eq, h.args_eq href]
  exact hparts

theorem sameCalls_of_entry {σ ρ : Type} (plan plan' : Plan) (entry : Entry σ ρ) :
    m.SameCalls ⟨plan, callFramed (m.slots .byValue) entry⟩
      ⟨plan', callByRef (m.slots .byRef) entry⟩ where
  reply_eq := m.toReply_callByRef entry
  args_eq h := fun s args => m.args_callByRef entry s args h

/-- One request for a delegate, made in both variants. -/
inductive CompiledAlike {σ ρ : Type} :
    Except Refusal (MethodDelegate σ ρ) → Except Refusal (RefMethodDelegate σ ρ) → Prop
  | compiled {d : MethodDelegate σ ρ} {d' : RefMethodDelegate σ ρ} (same : m.SameCalls d d') :
    CompiledAlike (.ok d) (.ok d')
  | refused (refusal : Refusal) : CompiledAlike (.error refusal) (.error refusal)

/-- Whatever entry there is for a request, it is lowered alike. -/
theorem compiledAlike_typed (T R : TypeTag) :
    m.CompiledAlike (m.compileTyped T R) (m.compileByRefTyped T R) := by
  rw [m.compileTyped_eq_compileTypedFramed, compileTypedFramed, compileByRefTyped]
  obtain ⟨refusal, h, h'⟩ | ⟨plan, plan', h, h', hnoEntry⟩ :=
    (Member.method m : Member _).plan_variant (I := T) (R := R) .byValue .byRef
  · rw [planSlots_of_refusal h, planSlots_of_refusal h']
    exact .refused refusal
  · rw [planSlots_of_plan h, planSlots_of_plan h']
    cases m.entry? T R with
    | none =>
      simp only [hnoEntry]
      exact .refused plan.noEntry
    | some entry => exact .compiled (m.sameCalls_of_entry plan plan' entry)

end Method

/-- **By value and with write-back a method is called alike.**  For any receiver, and for every
receiver and result type asked for, the method is compiled in both variants or refused in both, for
the same reason; and the two delegates leave every receiver in the same state and end in the same
way, whatever the arguments and however many.  If the method passes nothing by reference, the one
with write-back leaves the container as it is. -/
theorem byValue_eq_byRef {declaring : TypeTag} (m : Method declaring) :
    (∃ d d', m.compile = .ok d ∧ m.compileByRef = .ok d' ∧ m.SameCalls d d') ∧
    (∀ R, R = .any ∨ R = m.result → ∃ d d', m.compileTyped declaring R = .ok d ∧
      m.compileByRefTyped declaring R = .ok d' ∧ m.SameCalls d d') ∧
    ∀ T R, m.CompiledAlike (m.compileTyped T R) (m.compileByRefTyped T R) := by
  refine ⟨?_, ?_, m.compiledAlike_typed⟩
  · obtain ⟨plan, hplan⟩ := m.exists_compile_framed
    obtain ⟨plan', hplan'⟩ := m.exists_compileByRef
    exact ⟨_, _, hplan, hplan', m.sameCalls_of_entry plan plan' m.erased⟩
  · rintro R (rfl | rfl)
    · obtain ⟨plan, hplan⟩ := m.exists_compileTyped_any_framed
      obtain ⟨plan', hplan'⟩ := m.exists_compileByRefTyped_any
      exact ⟨_, _, hplan, hplan', m.sameCalls_of_entry plan plan' m.widened⟩
    · obtain ⟨plan, hplan⟩ := m.exists_compileTyped_result_framed
      obtain ⟨plan', hplan'⟩ := m.exists_compileByRefTyped_result
      exact ⟨_, _, hplan, hplan', m.sameCalls_of_entry plan plan' m.framed⟩

/-- A script that passes nothing by reference, and exchanges its arguments in the frame. -/
def swapScript : Script where
  formals := [.byValue .any, .byValue .text]
  actions := [.swap 0 1]
  result := .any
  returned := .argument 0

/-- The exchange stays in the frame.  A container that is too short is read past its end in both
variants, before the receiver is found to be foreign. -/
theorem byValue_eq_byRef_swapScript :
    ∃ d d', (swapScript.method "Alpha" "swap" []).compile = .ok d ∧
      (swapScript.method "Alpha" "swap" []).compileByRef = .ok d' ∧
      d'.call ⟨hostType "Alpha", Host.toFields {}⟩ [.null, .ofCarrier .literal "a"] =
        ⟨⟨⟨hostType "Alpha", (Host.called {}).toFields⟩, .ok (.text "a")⟩,
          [.null, .ofCarrier .literal "a"]⟩ ∧
      d'.call ⟨.text, "x"⟩ [.null] = ⟨⟨⟨.text, "x"⟩, .error (.outOfBounds 1 1)⟩, [.null]⟩ := by
  obtain ⟨⟨d, d', hd, hd', hsame⟩, -, -⟩ := byValue_eq_byRef (swapScript.method "Alpha" "swap" [])
  refine ⟨d, d', hd, hd', ?_, ?_⟩
  · rw [hsame.call_eq rfl]
    cases hd
    rfl
  · rw [hsame.call_eq rfl]
    cases hd
    rfl

end LateBinding
