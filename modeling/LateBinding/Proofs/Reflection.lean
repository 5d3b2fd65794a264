import LateBinding.Proofs.InPlace
import LateBinding.Proofs.WriteBack

/-!
# Reflection: a delegate answers like a reflective call

A reflective call checks everything each time: the receiver, the number of arguments, their types.
With the right number of arguments a delegate comes to the same reply.

* `Method.prepare_mk`, `Method.prepare_foreign` — what a reflective call does to begin with;
* `Method.invoke_eq_callFramed`, `Method.invokeByRef_eq_callByRef`,
  `Constructor.invoke_eq_construct` — reflective calls as calls through the frame of a delegate;
* `byValue_eq_invoke` — the delegates by value of all three levels, on receivers of the declaring
  type and on foreign ones;
* `byRef_eq_invokeByRef` — the delegates with write-back, container included.
-/

namespace LateBinding

namespace Method

variable {declaring : TypeTag} (m : Method declaring)

/-! ### Reflective calls as calls through a frame -/

/-- For a receiver of the declaring type and the right number of arguments it remains to convert
them. -/
theorem prepare_mk (s : declaring.Carrier) {args : List Value} (hlen : args.length = m.arity) :
    m.prepare ⟨declaring, s⟩ args = coerceEach m.formals args := by
  rw [prepare, if_pos rfl, coerceArguments]
  exact if_pos hlen

/-- A foreign receiver is refused before the arguments are looked at. -/
theorem prepare_foreign {i : Instance} (h : i.1 ≠ declaring) (args : List Value) :
    m.prepare i args = .error (i.mismatch declaring) := if_neg h

theorem invoke_foreign {i : Instance} (h : i.1 ≠ declaring) (args : List Value) :
    m.invoke i args = .refused i (i.mismatch declaring) := by
  rw [invoke, m.prepare_foreign h]

/-- The frame of a delegate, where a reflective call finds its own. -/
theorem marshal_slots (variant : Variant) {args : List Value} (hlen : args.length = m.arity) :
    marshal args (m.slots variant) =
      match coerceEach m.formals args with
      | .error e => .error (.error (.ofBind e))
      | .ok frame => .ok frame := by
  have hframe := marshal_eq_coerceEach variant (Nat.le_of_eq hlen.symm)
  rw [slots, hframe]
  cases coerceEach m.formals args <;> rfl

/-- What is new in the frame of a delegate is new in that of a reflective call. -/
theorem frame_eq (variant : Variant) (args converted : List Value) :
    m.frame args converted = ⟨converted, renewed args (m.slots variant)⟩ := by
  rw [frame, slots, renewed_ofFormals]

/-- **A reflective call is a call through the frame of a delegate.** -/
theorem invoke_eq_callFramed (s : declaring.Carrier) {args : List Value}
    (hlen : args.length = m.arity) :
    (m.invoke ⟨declaring, s⟩ args).mapError .ofBind =
      callFramed (m.slots .byValue) m.erased ⟨declaring, s⟩ args := by
  rw [invoke, m.prepare_mk s hlen, callFramed, m.marshal_slots .byValue hlen]
  cases coerceEach m.formals args with
  | error e => rfl
  | ok converted => simp only [m.frame_eq .byValue]

/-- **A reflective call with write-back is a call of a delegate with write-back**, down to the
container. -/
theorem invokeByRef_eq_callByRef (s : declaring.Carrier) {args : List Value}
    (hlen : args.length = m.arity) :
    (m.invokeByRef ⟨declaring, s⟩ args).mapError .ofBind =
      callByRef (m.slots .byRef) m.erased ⟨declaring, s⟩ args := by
  rw [invokeByRef, m.prepare_mk s hlen, callByRef, m.marshal_slots .byRef hlen]
  cases coerceEach m.formals args with
  | error e => rfl
  | ok converted =>
    simp only [m.frame_eq .byRef]
    cases hreply : (m.erased ⟨declaring, s⟩ ⟨converted, renewed args (m.slots .byRef)⟩).outcome with
    | error fault => rfl
    | ok result =>
      have hroom : 0 + m.formals.length ≤ args.length := by
        rw [Nat.zero_add, hlen]
        exact Nat.le_refl _
      have hback := fun left => writeBack_ofFormals m.names left hroom
      rw [← slots] at hback
      simp only [hback]
      rfl

/-! ### Calls without a short cut -/

theorem exists_compile_framed :
    ∃ plan, m.compile = .ok ⟨plan, callFramed (m.slots .byValue) m.erased⟩ := by
  rw [← m.callInPlace_erased]
  exact m.exists_compile

theorem exists_compileTyped_any_framed : ∃ plan,
    m.compileTyped declaring .any = .ok ⟨plan, callFramed (m.slots .byValue) m.widened⟩ := by
  rw [← m.callInPlace_widened]
  exact m.exists_compileTyped_any

theorem exists_compileTyped_result_framed : ∃ plan,
    m.compileTyped declaring m.result = .ok ⟨plan, callFramed (m.slots .byValue) m.framed⟩ := by
  rw [← m.callInPlace_framed]
  exact m.exists_compileTyped_result

theorem exists_compileByRef :
    ∃ plan, m.compileByRef = .ok ⟨plan, callByRef (m.slots .byRef) m.erased⟩ := by
  obtain ⟨plan, hplan⟩ := m.planSlots_eq_ok (R := .any) .byRef (.inl rfl) (.inl rfl)
  exact ⟨plan, by rw [compileByRef, hplan]⟩

theorem exists_compileByRefTyped_any : ∃ plan,
    m.compileByRefTyped declaring .any = .ok ⟨plan, callByRef (m.slots .byRef) m.widened⟩ := by
  obtain ⟨plan, hplan⟩ := m.planSlots_eq_ok (R := .any) .byRef (.inr rfl) (.inl rfl)
  refine ⟨plan, ?_⟩
  rw [compileByRefTyped, hplan]
  simp only [m.entry?_any]

theorem exists_compileByRefTyped_result : ∃ plan,
    m.compileByRefTyped declaring m.result = .ok ⟨plan, callByRef (m.slots .byRef) m.framed⟩ := by
  obtain ⟨plan, hplan⟩ := m.planSlots_eq_ok (R := m.result) .byRef (.inr rfl) (.inr rfl)
  refine ⟨plan, ?_⟩
  rw [compileByRefTyped, hplan]
  simp only [m.entry?_result]

/-! ### Foreign receivers -/

/-- On a foreign receiver a delegate fails and leaves the receiver alone, whatever the arguments. -/
theorem callFramed_foreign_failed (slots : List Slot) {i : Instance} (h : i.1 ≠ declaring)
    (args : List Value) : ∃ fault, callFramed slots m.erased i args = ⟨i, .error fault⟩ := by
  rw [callFramed_erased_foreign m slots h]
  cases marshal args slots with
  | error fault => exact ⟨fault, rfl⟩
  | ok frame => exact ⟨_, rfl⟩

/-- With enough arguments the failure is an error. -/
theorem callFramed_foreign_refused {i : Instance} (h : i.1 ≠ declaring) {args : List Value}
    (hlen : m.arity ≤ args.length) :
    ∃ e, callFramed (m.slots .byValue) m.erased i args = .refused i e := by
  rw [callFramed_erased_foreign m _ h, slots, marshal_eq_coerceEach .byValue hlen]
  cases coerceEach m.formals args with
  | error e => exact ⟨.ofBind e, rfl⟩
  | ok frame => exact ⟨.ofBind (i.mismatch declaring), rfl⟩

/-- If all arguments convert, it is the one that a reflective call reports. -/
theorem callFramed_foreign_of_converts {i : Instance} (h : i.1 ≠ declaring) {args : List Value}
    (hargs : Converts m.formals args) :
    callFramed (m.slots .byValue) m.erased i args = (m.invoke i args).mapError .ofBind := by
  obtain ⟨frame, hframe⟩ := marshal_of_converts .byValue hargs
  rw [callFramed_erased_foreign m _ h, slots, hframe, m.invoke_foreign h]
  rfl

end Method

namespace Constructor

variable {declaring : TypeTag} (c : Constructor declaring)

theorem exists_compileBy_framed {ρ : Type} (box : declaring.Carrier → ρ) :
    ∃ plan, c.compileBy box = .ok ⟨plan, construct (c.slots .byValue) (c.erasedBy box)⟩ := by
  rw [← c.constructInPlace_erasedBy]
  exact c.exists_compileBy box

theorem exists_compile_framed :
    ∃ plan, c.compile = .ok ⟨plan, construct (c.slots .byValue) c.erased⟩ :=
  c.exists_compileBy_framed _

/-- **Reflective construction is construction through the frame of a delegate.** -/
theorem invoke_eq_construct {args : List Value} (hlen : args.length = c.formals.length) :
    (c.invoke args).mapError (Fault.map .ofBind) = construct (c.slots .byValue) c.erased args := by
  have hframe := marshal_eq_coerceEach .byValue (Nat.le_of_eq hlen.symm)
  rw [invoke, invokeBy, coerceArguments, if_pos hlen, construct, slots, hframe]
  cases coerceEach c.formals args <;> rfl

end Constructor

/-! ### Delegates and reflective calls -/

/-- **A delegate by value answers like a reflective call.**  With the right number of arguments the
three delegates of a method leave the receiver in the state in which the reflective call leaves it,
and end as it does.  A foreign receiver is refused by both; the errors are the same if all arguments
convert. -/
theorem byValue_eq_invoke {declaring : TypeTag} (m : Method declaring) :
    ∃ untyped boxed typed,
      m.compile = .ok untyped ∧ m.compileTyped declaring .any = .ok boxed ∧
      m.compileTyped declaring m.result = .ok typed ∧
      (∀ (s : declaring.Carrier) (args : List Value), args.length = m.arity →
        untyped.call ⟨declaring, s⟩ args = (m.invoke ⟨declaring, s⟩ args).mapError .ofBind ∧
        (boxed.call s args).mapReceiver (Sigma.mk declaring) =
          (m.invoke ⟨declaring, s⟩ args).mapError .ofBind ∧
        ((typed.call s args).mapReceiver (Sigma.mk declaring)).mapResult
            (Value.ofCarrier m.result) =
          (m.invoke ⟨declaring, s⟩ args).mapError .ofBind) ∧
      (∀ (i : Instance) (args : List Value), i.1 ≠ declaring →
        m.invoke i args = .refused i (i.mismatch declaring) ∧
        (∃ fault, untyped.call i args = ⟨i, .error fault⟩) ∧
        (m.arity ≤ args.length → ∃ e, untyped.call i args = .refused i e) ∧
        (Converts m.formals args →
          untyped.call i args = (m.invoke i args).mapError .ofBind)) := by
  obtain ⟨plan, hplan⟩ := m.exists_compile_framed
  obtain ⟨plan', hplan'⟩ := m.exists_compileTyped_any_framed
  obtain ⟨plan'', hplan''⟩ := m.exists_compileTyped_result_framed
  refine ⟨_, _, _, hplan, hplan', hplan'', ?_, ?_⟩
  · intro s args hlen
    rw [m.invoke_eq_callFramed s hlen]
    refine ⟨rfl, ?_, ?_⟩
    · exact (callFramed_erased_mk m _ s args).symm
    · rw [callFramed_erased_mk, callFramed_widened]
      rfl
  · intro i args hi
    exact ⟨m.invoke_foreign hi args, m.callFramed_foreign_failed _ hi args,
      m.callFramed_foreign_refused hi, m.callFramed_foreign_of_converts hi⟩

/-- The subject is formatted the same way, and a receiver that is no subject is refused. -/
theorem byValue_eq_invoke_format :
    ∃ d, Subject.methods[0].compile = .ok d ∧
      d.call ⟨Subject.type, Subject.make "x"⟩ [.boxed (.leaf .literal "a"), .text "b"] =
        ⟨⟨Subject.type, Subject.make "x"⟩, .ok (.text "a-b-x")⟩ ∧
      d.call ⟨.text, "x"⟩ [.boxed (.leaf .literal "a"), .text "b"] =
        .refused ⟨.text, "x"⟩ (.typeMismatch "Sample" "String") := by
  obtain ⟨d, _, _, hd, -, -, hcall, hforeign⟩ := byValue_eq_invoke Subject.methods[0]
  have hargs : Converts Subject.methods[0].formals [.boxed (.leaf .literal "a"), .text "b"] := by
    intro k p hp
    match k with
    | 0 | 1 => cases hp; exact ⟨_, rfl, rfl⟩
    | k + 2 => cases hp
  refine ⟨d, hd, ?_, ?_⟩
  · rw [(hcall _ _ rfl).1]
    rfl
  · rw [(hforeign _ _ (by decide)).2.2.2 hargs]
    rfl

/-- **A delegate with write-back answers like a reflective call with write-back.**  With the right
number of arguments receiver, outcome and container are the same. -/
theorem byRef_eq_invokeByRef {declaring : TypeTag} (m : Method declaring) :
    ∃ untyped boxed typed,
      m.compileByRef = .ok untyped ∧ m.compileByRefTyped declaring .any = .ok boxed ∧
      m.compileByRefTyped declaring m.result = .ok typed ∧
      ∀ (s : declaring.Carrier) (args : List Value), args.length = m.arity →
        untyped.call ⟨declaring, s⟩ args = (m.invokeByRef ⟨declaring, s⟩ args).mapError .ofBind ∧
        (boxed.call s args).mapReceiver (Sigma.mk declaring) =
          (m.invokeByRef ⟨declaring, s⟩ args).mapError .ofBind ∧
        ((typed.call s args).mapReceiver (Sigma.mk declaring)).mapResult
            (Value.ofCarrier m.result) =
          (m.invokeByRef ⟨declaring, s⟩ args).mapError .ofBind := by
  obtain ⟨plan, hplan⟩ := m.exists_compileByRef
  obtain ⟨plan', hplan'⟩ := m.exists_compileByRefTyped_any
  obtain ⟨plan'', hplan''⟩ := m.exists_compileByRefTyped_result
  refine ⟨_, _, _, hplan, hplan', hplan'', ?_⟩
  intro s args hlen
  rw [m.invokeByRef_eq_callByRef s hlen]
  refine ⟨rfl, ?_, ?_⟩
  · exact (callByRef_erased_mk m _ s args).symm
  · rw [callByRef_erased_mk, callByRef_widened]
    rfl

/-- Both texts get the suffix, the widened one as well. -/
theorem byRef_eq_invokeByRef_appendSuffix :
    ∃ d, Subject.methods[3].compileByRef = .ok d ∧
      d.call ⟨Subject.type, Subject.make "x"⟩ [.text "a", .boxed (.leaf .literal "b")] =
        ⟨⟨⟨Subject.type, Subject.make "x"⟩, .ok .null⟩, [.text "a:end", .text "b:end"]⟩ := by
  obtain ⟨d, _, _, hd, -, -, hcall⟩ := byRef_eq_invokeByRef Subject.methods[3]
  refine ⟨d, hd, ?_⟩
  rw [(hcall _ _ rfl).1]
  rfl

end LateBinding
