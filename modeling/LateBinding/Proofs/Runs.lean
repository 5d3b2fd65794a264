import LateBinding.Proofs.Construction
import LateBinding.Proofs.Variants

/-!
# Runs: of functions and of raw bodies

The calls of a method that is given by a function come with a count of the runs they take.  Here
those of a raw body get one as well.  It is entered through a frame in every way to call, so that it
runs when the frame is ready and the receiver can be reached.

* `Accounts` — the count of a way to call: a call for which no frame was got ready has run nothing;
* `Closure.accounts_tried`, `Closure.accounts_marshalled` — the counts of the calls of a function
  are of this kind, also if it stops half-way;
* `Method.entering`, `Method.accounted` — the counted call of a raw body, and of a method of any
  kind;
* `Method.ready`, `Method.delegated` — the frame and the counted call of a delegate;
* `Method.accounts_byValue`, `Method.accounts_byRef` — the counts of delegates;
* `Method.accounts_invoke`, `Method.accounts_invokeByRef`, `Constructor.accounts_invoke` — the
  counts of reflective calls.
-/

namespace LateBinding

/-! ### Calls that were not got ready -/

/-- The runs of a way to call: a call that was not got ready is over, and has run nothing. -/
structure Accounts {ε σ ρ α : Type} (prepared : σ → List Value → Except (Fault ε) α)
    (counted : σ → List Value → Counted (FrameReply ε σ ρ))
    (call : σ → List Value → FrameReply ε σ ρ) : Prop where
  /-- What is counted are the runs of this call. -/
  value_eq : ∀ s args, (counted s args).value = call s args
  stops : ∀ {s args fault}, prepared s args = .error fault →
    counted s args = ⟨.stopped s args fault, 0⟩

theorem callByRef_of_error {σ ρ : Type} {slots : List Slot} {entry : Entry σ ρ} {s : σ}
    {args : List Value} {fault : Fault DelegateError} (h : marshal args slots = .error fault) :
    callByRef slots entry s args = .stopped s args fault := by
  rw [callByRef, h]

namespace Closure

variable {σ τ ρ : Type} (f : Closure τ ρ) (a : Packing σ τ)

/-- Without a frame the attempt in place has come to nothing either. -/
theorem call_of_error {s : σ} {args : List Value} {fault : Fault DelegateError}
    (h : marshal args f.slots = .error fault) : f.call a s args = ⟨⟨s, .error fault⟩, 0⟩ := by
  have hvalue : (f.call a s args).value = ⟨s, .error fault⟩ := by
    rw [f.call_value, f.callInPlace_eq_callFramed, callFramed, h]
  have hruns := f.call_runs a s args
  rw [hvalue, not_entered_marshal h] at hruns
  show Counted.mk (f.call a s args).value (f.call a s args).runs = _
  rw [hvalue, hruns]
  rfl

/-- **The calls of a function that try in place first are accounted for.** -/
theorem accounts_tried : Accounts (fun _ args => marshal args f.slots) (f.tried a)
    fun s args => (callFramed f.slots (f.framed a) s args).beside args where
  value_eq := by
    intro s args
    rw [← f.callInPlace_eq_callFramed, ← f.call_value]
    rfl
  stops := by
    intro s args fault h
    rw [tried, f.call_of_error a h]
    rfl

/-- **So are those that do not.** -/
theorem accounts_marshalled :
    Accounts (fun _ args => marshal args (Slot.ofFormals .byRef 0 (f.types.map .byValue)))
      (f.marshalled a .byRef)
      (callByRef (Slot.ofFormals .byRef 0 (f.types.map .byValue)) (f.framed a)) where
  value_eq := by
    intro s args
    rw [f.callByRef_eq_marshalled]
  stops := by
    intro s args fault h
    rw [marshalled, ready, h]
    rfl

end Closure

/-! ### Runs of raw bodies -/

namespace Method

variable {declaring : TypeTag} (m : Method declaring)

section Accounted

variable {ε σ ρ α : Type} (a : Packing σ declaring.Carrier) (carry : BindError → ε)
  (variant : Variant) (entry : Entry σ ρ)

/-- A call that enters the method through a frame that was got ready beforehand, and copies the
frame back if that is wanted.  The entry runs the body if it can reach the receiver. -/
def entering (prepared : Except (Fault ε) Frame) (s : σ) (args : List Value) :
    Counted (FrameReply ε σ ρ) :=
  match prepared with
  | .error fault => ⟨.stopped s args fault, 0⟩
  | .ok frame =>
    let reply := entry s frame
    let left := if variant = .byRef ∧ reply.outcome.isOk then copyBack m.parameters reply.args args
      else args
    ⟨(reply.toReply.mapError carry).beside left, (a.unpack s).isOk.toNat⟩

/-- The runs of a call: those of the function if the method is given by one, and otherwise those of
the raw body, which is always entered through a frame. -/
def accounted (prepared : σ → List Value → Except (Fault ε) Frame)
    (ofClosure : Closure declaring.Carrier m.result.Carrier → σ → List Value →
      Counted (FrameReply ε σ ρ)) :
    σ → List Value → Counted (FrameReply ε σ ρ) :=
  match m.body.closure? with
  | some f => ofClosure f
  | none => fun s args => m.entering a carry variant entry (prepared s args) s args

variable {m a carry variant entry}

theorem accounts_accounted {readied : σ → List Value → Except (Fault ε) α}
    {prepared : σ → List Value → Except (Fault ε) Frame}
    {ofClosure : Closure declaring.Carrier m.result.Carrier → σ → List Value →
      Counted (FrameReply ε σ ρ)}
    {call : σ → List Value → FrameReply ε σ ρ}
    (hready : ∀ {s args fault}, readied s args = .error fault → prepared s args = .error fault)
    (hraw : ∀ s args,
      (m.entering a carry variant entry (prepared s args) s args).value = call s args)
    (hclosure : ∀ f, m.body.closure? = some f → Accounts readied (ofClosure f) call) :
    Accounts readied (m.accounted a carry variant entry prepared ofClosure) call := by
  rw [accounted]
  cases hf : m.body.closure? with
  | some f => exact hclosure f hf
  | none =>
    refine ⟨hraw, ?_⟩
    intro s args fault hfault
    simp only [hready hfault]
    rfl

end Accounted

/-! ### Delegates -/

section Delegates

variable {σ ρ : Type} (a : Packing σ declaring.Carrier)

/-- What a delegate gets ready. -/
def ready (variant : Variant) (args : List Value) : Except (Fault DelegateError) Frame :=
  (marshal args (m.slots variant)).map (m.frame args)

/-- The runs of a delegate's call, whose frame is marshalled. -/
def delegated (variant : Variant) (entry : Entry σ ρ)
    (ofClosure : Closure declaring.Carrier m.result.Carrier → σ → List Value →
      Counted (FrameReply DelegateError σ ρ)) :
    σ → List Value → Counted (FrameReply DelegateError σ ρ) :=
  m.accounted a .ofBind variant entry (fun _ args => m.ready variant args) ofClosure

theorem ready_of_error {variant : Variant} {args : List Value} {fault : Fault DelegateError}
    (h : marshal args (m.slots variant) = .error fault) :
    m.ready variant args = .error fault := by
  rw [ready, h]
  rfl

variable (entry : Entry σ ρ)

theorem entering_callFramed (s : σ) (args : List Value) :
    (m.entering a .ofBind .byValue entry (m.ready .byValue args) s args).value =
      (callFramed (m.slots .byValue) entry s args).beside args := by
  rw [callFramed, ready]
  cases marshal args (m.slots .byValue) with
  | error fault => rfl
  | ok values =>
    simp only [Except.map, entering, reduceCtorEq, false_and, if_false, m.frame_eq .byValue]

theorem entering_callByRef (s : σ) (args : List Value) :
    (m.entering a .ofBind .byRef entry (m.ready .byRef args) s args).value =
      callByRef (m.slots .byRef) entry s args := by
  cases hvalues : marshal args (m.slots .byRef) with
  | error fault => rw [callByRef_of_error hvalues, m.ready_of_error hvalues]; rfl
  | ok values =>
    rw [m.callByRef_of_room entry s (m.arity_le_of_marshal hvalues), ready, hvalues]
    simp only [Except.map, entering, true_and]
    cases (entry s (m.frame args values)).outcome <;> rfl

variable {m a entry} {g : Closure declaring.Carrier m.result.Carrier → Closure declaring.Carrier ρ}

/-- **The calls of delegates by value are accounted for.**  `g` boxes the result of the function or
leaves it as it is. -/
theorem accounts_byValue
    (hentry : ∀ {f}, m.body.closure? = some f → entry = (g f).framed a ∧ (g f).types = f.types) :
    Accounts (fun _ args => marshal args (m.slots .byValue))
      (m.delegated a .byValue entry fun f => (g f).tried a)
      fun s args => (callFramed (m.slots .byValue) entry s args).beside args := by
  refine accounts_accounted m.ready_of_error (m.entering_callFramed a entry) ?_
  intro f hf
  obtain ⟨rfl, htypes⟩ := hentry hf
  have hslots : m.slots .byValue = (g f).slots := by
    rw [slots_of_closure? hf, Closure.slots, Closure.slots, htypes]
  rw [hslots]
  exact (g f).accounts_tried a

/-- **So are those of delegates with write-back.** -/
theorem accounts_byRef
    (hentry : ∀ {f}, m.body.closure? = some f → entry = (g f).framed a ∧ (g f).types = f.types) :
    Accounts (fun _ args => marshal args (m.slots .byRef))
      (m.delegated a .byRef entry fun f => (g f).marshalled a .byRef)
      (callByRef (m.slots .byRef) entry) := by
  refine accounts_accounted m.ready_of_error (m.entering_callByRef a entry) ?_
  intro f hf
  obtain ⟨rfl, htypes⟩ := hentry hf
  have hslots : m.slots .byRef = Slot.ofFormals .byRef 0 ((g f).types.map .byValue) := by
    rw [slots, formals_of_closure? hf, htypes]
  rw [hslots]
  exact (g f).accounts_marshalled a

end Delegates

/-! ### Reflective calls -/

section Reflective

variable (a : Packing Instance declaring.Carrier) (i : Instance) (args : List Value)

theorem entering_invoke :
    (m.entering a id .byValue m.erased (m.prepared i args) i args).value =
      (m.invoke i args).beside args := by
  rw [prepared, invoke]
  cases m.prepare i args with
  | error e => rfl
  | ok converted =>
    simp only [Except.map, Except.mapError, entering, reduceCtorEq, false_and, if_false,
      Reply.mapError_id]

theorem entering_invokeByRef :
    (m.entering a id .byRef m.erased (m.prepared i args) i args).value = m.invokeByRef i args := by
  rw [prepared, invokeByRef]
  cases m.prepare i args with
  | error e => rfl
  | ok converted =>
    simp only [Except.map, Except.mapError, entering, true_and, Reply.mapError_id]
    cases (m.erased i (m.frame args converted)).outcome <;> rfl

theorem accounts_reflected (f : Closure declaring.Carrier m.result.Carrier) :
    Accounts m.prepared (m.reflected f) fun i args => (m.reflected f i args).value where
  value_eq i args := rfl
  stops := by
    intro i args fault hfault
    rw [reflected, hfault]
    rfl

/-- **The reflective calls are accounted for.** -/
theorem accounts_invoke :
    Accounts m.prepared
      (m.accounted (.tagged declaring) id .byValue m.erased m.prepared m.reflected)
      fun i args => (m.invoke i args).beside args := by
  refine accounts_accounted id (m.entering_invoke _) ?_
  intro f hf
  rw [invoke_of_closure? hf]
  exact m.accounts_reflected f

theorem accounts_invokeByRef :
    Accounts m.prepared
      (m.accounted (.tagged declaring) id .byRef m.erased m.prepared m.reflected)
      m.invokeByRef := by
  refine accounts_accounted id (m.entering_invokeByRef _) ?_
  intro f hf
  rw [invokeByRef_of_closure? hf]
  exact m.accounts_reflected f

end Reflective

end Method

/-- **So is a reflective construction.** -/
theorem Constructor.accounts_invoke {declaring : TypeTag} (c : Constructor declaring) :
    Accounts (fun _ => c.prepared) c.reflected (called c.invoke) where
  value_eq := by
    intro s args
    rw [c.called_invoke]
  stops := by
    intro s args fault hfault
    rw [reflected, hfault]
    rfl

end LateBinding
