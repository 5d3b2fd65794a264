import LateBinding.Proofs.Resolution
import LateBinding.Proofs.Construction
import LateBinding.Samples.Scripts

/-!
# Acceptance: who accepts arguments can convert them

A late-bound call looks at the arguments twice.  The choice of a member compares their run-time
types with the parameters, and the call then converts their values.  The two never disagree, so that
a member that was chosen is never found not to fit.

* `accepts_iff_coerceArguments` — a parameter list accepts arguments just when they convert;
* `Method.invoke_of_coerced` — with converted arguments a reflective call on a receiver of the
  declaring type is the body's own reply;
* `Method.Raises`, `Method.raises_of_widened` — the faults that are the body's own, and that a body
  entered with converted arguments meets with no others;
* `Method.Answers`, `Method.answers_of_accepts` — the calls of a method that accepts the arguments,
  on every receiver;
* `acceptance_predicts_conversion` — the statement for late-bound calls and creations.
-/

namespace LateBinding

/-- **A parameter list accepts arguments just when they convert.** -/
theorem accepts_iff_coerceArguments (member : String) {formals : List Formal}
    {args : List Value} :
    accepts formals args ↔ ∃ frame, coerceArguments member formals args = .ok frame := by
  rw [accepts_iff_converts]
  constructor
  · rintro ⟨hlen, hargs⟩
    obtain ⟨frame, hframe⟩ := coerceEach_of_converts hargs
    refine ⟨frame, ?_⟩
    rw [coerceArguments, if_pos hlen, hframe]
  · rintro ⟨frame, hframe⟩
    refine ⟨?_, (coerced_of_coerceArguments hframe).converts⟩
    by_contra hlen
    rw [coerceArguments, if_neg hlen] at hframe
    cases hframe

namespace Method

variable {declaring : TypeTag} {m : Method declaring}

/-- With converted arguments a reflective call is the body's own reply. -/
theorem invoke_of_coerced {args converted : List Value}
    (h : coerceArguments m.name m.formals args = .ok converted) (s : declaring.Carrier) :
    m.invoke ⟨declaring, s⟩ args =
      ((m.widened s (m.frame args converted)).mapReceiver (Sigma.mk declaring)).toReply := by
  rw [invoke, prepare, if_pos rfl, h]
  simp only [m.erased_mk]

/-- The one run of a function on the converted arguments. -/
theorem widened_of_closure?_of_coerced {f : Closure declaring.Carrier m.result.Carrier}
    (hf : m.body.closure? = some f) {args converted : List Value}
    (h : coerceArguments m.name m.formals args = .ok converted) :
    ∃ xs, Args.supply args 0 f.types = .ok xs ∧ ∀ s, m.widened s (m.frame args converted) =
      ⟨⟨(f.run s xs).1, Ending.outcome ((f.run s xs).2.map (Value.ofCarrier m.result))⟩,
        converted⟩ := by
  rw [formals_of_closure? hf] at h
  obtain ⟨xs, hxs, hread⟩ :=
    Args.supply_of_marshal_ok (marshal_of_coerceArguments .byValue h)
  have hframe : Args.readFrame (m.frame args converted).values 0 f.boxed.types = .ok xs := hread []
  refine ⟨xs, hxs, fun s => ?_⟩
  rw [widened_of_closure? hf, Closure.framed, Closure.enter_of_readFrame hframe]
  rfl

variable (m)

/-- The faults that are the body's own: a raw body fails on the frame of the converted arguments, or
a function that all arguments are supplied to stops half-way. -/
inductive Raises (args converted : List Value) (s : declaring.Carrier) : Fault BindError → Prop
  | raw {formals run keepsLength fault} (body : m.body = .raw formals run keepsLength)
      (fails : (run s (m.frame args converted)).outcome = .error fault) :
      Raises args converted s fault
  | stops {f xs text} (body : m.body.closure? = some f)
      (supplied : Args.supply args 0 f.types = .ok xs) (stops : (f.run s xs).2 = .error text) :
      Raises args converted s (.aborted text)

variable {m}

/-- **A body that is entered with converted arguments meets with no fault but its own.**  A function
has then all it needs. -/
theorem raises_of_widened {args converted : List Value}
    (h : coerceArguments m.name m.formals args = .ok converted) {s : declaring.Carrier}
    {fault : Fault BindError}
    (hfault : (m.widened s (m.frame args converted)).outcome = .error fault) :
    m.Raises args converted s fault := by
  cases hf : m.body.closure? with
  | some f =>
    obtain ⟨xs, hxs, hrun⟩ := widened_of_closure?_of_coerced hf h
    rw [hrun s] at hfault
    cases hend : (f.run s xs).2 with
    | ok r =>
      rw [hend] at hfault
      cases hfault
    | error text =>
      rw [hend] at hfault
      cases hfault
      exact .stops hf hxs hend
  | none =>
    obtain ⟨name, visibility, names, result, body⟩ := m
    cases body with
    | shared | exclusive => cases hf
    | raw formals run keepsLength =>
      refine .raw rfl ?_
      have houtcome : (run s ⟨converted, renewedFor formals args⟩).outcome.map
          (Value.ofCarrier result) = .error fault := hfault
      cases hrun : (run s ⟨converted, renewedFor formals args⟩).outcome with
      | error fault' =>
        rw [hrun] at houtcome
        cases houtcome
        exact hrun
      | ok r =>
        rw [hrun] at houtcome
        cases houtcome

variable (m)

/-- The calls of a method that accepts the arguments, by receiver.  Neither the number of the
arguments nor the type of one of them is ever what goes wrong. -/
structure Answers (args : List Value) (call : Instance → Reply BindError Instance Value) :
    Prop where
  /-- A receiver of another type is refused, and nothing happens. -/
  of_foreign : ∀ i, i.1 ≠ declaring → call i = .refused i (i.mismatch declaring)
  /-- The arguments convert, and on receivers of the declaring type the reply is the body's. -/
  entered : ∃ converted, coerceArguments m.name m.formals args = .ok converted ∧
    ∀ s, call ⟨declaring, s⟩ =
      ((m.widened s (m.frame args converted)).mapReceiver (Sigma.mk declaring)).toReply
  /-- What goes wrong there goes wrong in the body. -/
  of_fault : ∀ s fault, (call ⟨declaring, s⟩).outcome = .error fault →
    ∃ converted, coerceArguments m.name m.formals args = .ok converted ∧
      m.Raises args converted s fault
  /-- A function is run once on the converted arguments, and the call ends as it does. -/
  of_closure : ∀ f, m.body.closure? = some f → ∃ xs, Args.supply args 0 f.types = .ok xs ∧
    ∀ s, call ⟨declaring, s⟩ =
      ⟨⟨declaring, (f.run s xs).1⟩,
        Ending.outcome ((f.run s xs).2.map (Value.ofCarrier m.result))⟩
  /-- With a function that does not stop half-way the call ends well. -/
  of_function : ∀ f : Function declaring.Carrier m.result.Carrier,
    m.body.closure? = some f.closure → ∃ xs, Args.supply args 0 f.types = .ok xs ∧
      ∀ s, call ⟨declaring, s⟩ =
        ⟨⟨declaring, (f.run s xs).1⟩, .ok (Value.ofCarrier m.result (f.run s xs).2)⟩

theorem answers_of_accepts {args : List Value} (h : accepts m.formals args) :
    m.Answers args fun i => m.invoke i args := by
  obtain ⟨converted, hconverted⟩ := (accepts_iff_coerceArguments m.name).mp h
  have hclosure : ∀ f, m.body.closure? = some f → ∃ xs, Args.supply args 0 f.types = .ok xs ∧
      ∀ s, m.invoke ⟨declaring, s⟩ args = ⟨⟨declaring, (f.run s xs).1⟩,
        Ending.outcome ((f.run s xs).2.map (Value.ofCarrier m.result))⟩ := by
    intro f hf
    obtain ⟨xs, hxs, hrun⟩ := widened_of_closure?_of_coerced hf hconverted
    refine ⟨xs, hxs, fun s => ?_⟩
    rw [invoke_of_coerced hconverted, hrun s]
    rfl
  constructor
  case of_foreign => exact fun i hi => m.invoke_foreign hi args
  case entered => exact ⟨converted, hconverted, invoke_of_coerced hconverted⟩
  case of_fault =>
    intro s fault hfault
    rw [invoke_of_coerced hconverted] at hfault
    exact ⟨converted, hconverted, raises_of_widened hconverted hfault⟩
  case of_closure => exact hclosure
  case of_function => exact fun f hf => hclosure f.closure hf

end Method

/-- A constructor that accepts the arguments is run on them, and ends as its function does. -/
theorem Constructor.invoke_of_accepts {declaring : TypeTag} {c : Constructor declaring}
    {args : List Value} (h : accepts c.formals args) :
    ∃ xs, Args.supply args 0 c.types = .ok xs ∧
      c.invoke args = Ending.outcome ((c.run xs).map (Value.ofCarrier declaring)) := by
  obtain ⟨hlen, hargs⟩ := accepts_iff_converts.mp h
  obtain ⟨xs, hxs, hinvoke, -⟩ := (c.constructsAlike (hlen.trans c.length_formals)).built hargs
  exact ⟨xs, hxs, hinvoke⟩

/-- **Acceptance predicts conversion.**  A parameter list accepts arguments just when they convert
to it.  So a late-bound call that finds its method never fails for the number of its arguments or
the type of one: it is refused for a foreign receiver, or is the reply of the body, and where it
fails on a receiver of the declaring type the body has failed.  A method given by a function ends
well there, if the function does.  A creation that finds its constructor ends as its function
does. -/
theorem acceptance_predicts_conversion (t : TypeDef) :
    (∀ (member : String) (formals : List Formal) (args : List Value),
      accepts formals args ↔ ∃ frame, coerceArguments member formals args = .ok frame) ∧
    (∀ (name : String) (args : List Value) (m : Method t.type),
      t.resolveMethod name args = .ok m →
        m.Answers args fun i => t.invokeMethod name i args) ∧
    (∀ (args : List Value) (c : Constructor t.type), t.resolveConstructor args = .ok c →
      ∃ xs, Args.supply args 0 c.types = .ok xs ∧
        t.create args = Ending.outcome ((c.run xs).map (Value.ofCarrier t.type))) := by
  refine ⟨fun member _ _ => accepts_iff_coerceArguments member, ?_, ?_⟩
  · intro name args m h
    simp only [TypeDef.invokeMethod_of_ok h]
    exact m.answers_of_accepts (TypeDef.accepts_of_resolveMethod h)
  · intro args c h
    rw [TypeDef.create_of_ok h]
    exact Constructor.invoke_of_accepts (TypeDef.accepts_of_resolveConstructor h)

/-- A raw method that takes any value, and then complains about it. -/
def complaint : Method (hostType "Alpha") :=
  Script.method ⟨[.byValue .any], [.fail "String" "bool"], .unit, .value .null⟩ "Alpha" "take" []

/-- A literal and a text are accepted for two texts, and the subject is formatted; a receiver that
is no subject is refused as such.  The one mismatch of types that a chosen method reports on a
receiver of its own is the complaint of a raw body. -/
theorem acceptance_predicts_conversion_subject :
    Subject.definition.invokeMethod "format" ⟨Subject.type, Subject.make "x"⟩
        [.ofCarrier .literal "a", .text "b"] =
      ⟨⟨Subject.type, Subject.make "x"⟩, .ok (.text "a-b-x")⟩ ∧
    Subject.definition.invokeMethod "format" ⟨.text, "x"⟩ [.ofCarrier .literal "a", .text "b"] =
      .refused ⟨.text, "x"⟩ (.typeMismatch "Sample" "String") ∧
    Subject.definition.create [.ofCarrier .literal "a"] =
      .ok (Value.ofCarrier Subject.type (Subject.make "a")) ∧
    ∃ converted, coerceArguments "take" complaint.formals [.null] = .ok converted ∧
      complaint.Raises [.null] converted (Host.toFields {})
        (.error (.typeMismatch "String" "bool")) := by
  obtain ⟨-, hcalls, hcreates⟩ := acceptance_predicts_conversion Subject.definition
  have hformat := hcalls "format" [.ofCarrier .literal "a", .text "b"] Subject.methods[0] rfl
  obtain ⟨-, hcomplains, -⟩ :=
    acceptance_predicts_conversion ((TypeDef.new (hostType "Alpha")).withMethod complaint)
  refine ⟨?_, hformat.of_foreign ⟨.text, "x"⟩ (by decide), ?_, ?_⟩
  · obtain ⟨xs, hxs, hrun⟩ := hformat.of_closure _ rfl
    cases hxs
    exact hrun (Subject.make "x")
  · obtain ⟨xs, hxs, hcreate⟩ := hcreates [.ofCarrier .literal "a"] Subject.constructor rfl
    cases hxs
    exact hcreate
  · exact (hcomplains "take" [.null] complaint rfl).of_fault (Host.toFields {}) _ rfl

end LateBinding
