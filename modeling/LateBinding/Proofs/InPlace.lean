import LateBinding.Proofs.Closure
import LateBinding.Proofs.EntryPoints
import LateBinding.Cli.Subject

/-!
# Calls in place: the short cut does not show

A delegate by value first tries to read its arguments where they stand.  This file takes the attempt
out of the compiler and shows that nothing is lost: the delegates are the same ones.

* `MethodBody.closure?`, `Constructor.closure` — the function that a body, or a constructor, is
  given by;
* `Method.framed_of_closure?`, `Method.inPlace?_of_closure?` and their siblings — at every level of
  typing the two entries of a method are those of its function;
* `Method.callInPlace_erased`, `Method.callInPlace_widened`, `Method.callInPlace_framed` — so trying
  in place changes no call;
* `Method.compileFramed`, `Constructor.compileFramed` — compiling without the attempt, with their
  typed versions;
* `Method.compile_eq_compileFramed`, `Constructor.compile_eq_compileFramed` — it is compiling;
* `inPlace_invisible` — the statement for methods and constructors together, with the number of
  runs.
-/

namespace LateBinding

/-! ### The function behind a method -/

/-- The function a body is given by.  One that only reads the receiver hands it back as it was. -/
def MethodBody.closure? {declaring result : TypeTag} :
    MethodBody declaring result → Option (Closure declaring.Carrier result.Carrier)
  | shared types run => some ⟨types, fun s xs => (s, run s xs)⟩
  | exclusive types run => some ⟨types, run⟩
  | raw _ _ _ => none

namespace Method

variable {declaring : TypeTag} {m : Method declaring}

section Closure

variable {f : Closure declaring.Carrier m.result.Carrier} (hf : m.body.closure? = some f)

include hf

theorem formals_of_closure? : m.formals = f.types.map .byValue := by
  obtain ⟨name, visibility, names, result, body⟩ := m
  cases body with
  | shared | exclusive => cases hf; rfl
  | raw => cases hf

theorem slots_of_closure? : m.slots .byValue = f.slots := by
  rw [slots, formals_of_closure? hf, Closure.slots]

theorem framed_of_closure? : m.framed = f.framed (.bare _) := by
  obtain ⟨name, visibility, names, result, body⟩ := m
  funext s frame
  cases body with
  | shared types run | exclusive types run =>
    cases hf
    simp only [framed, Closure.framed, Closure.enter, Packing.bare]
    cases Args.readFrame frame.values 0 types <;> rfl
  | raw => cases hf

theorem inPlace?_of_closure? : m.inPlace? = some (f.inPlace (.bare _)) := by
  obtain ⟨name, visibility, names, result, body⟩ := m
  cases body with
  | shared types run | exclusive types run =>
    cases hf
    refine congrArg some ?_
    funext s args
    simp only [Closure.inPlace, Closure.attempt, Packing.bare]
    cases Args.readExact? args 0 types <;> rfl
  | raw => cases hf

theorem widened_of_closure? : m.widened = f.boxed.framed (.bare _) := by
  funext s frame
  rw [widened, framed_of_closure? hf]
  simp only [Closure.framed, Closure.enter, Closure.boxed, Packing.bare]
  cases Args.readFrame frame.values 0 f.types with
  | error fault => rfl
  | ok xs =>
    simp only [FrameReply.mapResult, Reply.mapResult, Ending.map_outcome]

theorem inPlaceWidened?_of_closure? : m.inPlaceWidened? = some (f.boxed.inPlace (.bare _)) := by
  rw [inPlaceWidened?, inPlace?_of_closure? hf]
  refine congrArg some ?_
  funext s args
  simp only [Closure.inPlace, Closure.attempt, Closure.boxed, Packing.bare]
  cases Args.readExact? args 0 f.types with
  | none => rfl
  | some xs =>
    simp only [Reply.mapResult, Ending.map_outcome]
    cases (f.run s xs).2 <;> rfl

theorem erased_of_closure? : m.erased = f.boxed.framed (.tagged declaring) := by
  funext i frame
  by_cases hi : i.1 = declaring
  · rw [erased, dif_pos hi, widened_of_closure? hf]
    simp only [Closure.framed, Closure.enter, Closure.boxed, Packing.bare, Packing.tagged,
      dif_pos hi]
    cases Args.readFrame frame.values 0 f.types with
    | error fault =>
      -- a call that stops leaves the receiver as it came
      obtain ⟨T, s⟩ := i
      obtain rfl : T = declaring := hi
      rfl
    | ok xs => rfl
  · rw [m.erased_foreign hi]
    simp only [Closure.framed, Closure.enter, Packing.tagged, dif_neg hi]

theorem inPlaceErased?_of_closure? :
    m.inPlaceErased? = some (f.boxed.inPlace (.tagged declaring)) := by
  rw [inPlaceErased?, inPlaceWidened?_of_closure? hf]
  refine congrArg some ?_
  funext i args
  by_cases hi : i.1 = declaring
  · simp only [dif_pos hi, Closure.inPlace, Closure.attempt, Closure.boxed, Packing.bare,
      Packing.tagged]
    cases Args.readExact? args 0 f.types with
    | none =>
      -- an attempt that declines leaves the receiver as it came
      obtain ⟨T, s⟩ := i
      obtain rfl : T = declaring := hi
      rfl
    | some xs => rfl
  · simp only [dif_neg hi, Closure.inPlace, Closure.attempt, Packing.tagged]

end Closure

theorem inPlace?_of_raw (h : m.body.closure? = none) : m.inPlace? = none := by
  obtain ⟨name, visibility, names, result, body⟩ := m
  cases body with
  | shared | exclusive => cases h
  | raw => rfl

/-! ### Trying in place changes no call -/

variable (m : Method declaring)

theorem callInPlace_framed :
    callInPlace m.inPlace? (m.slots .byValue) m.framed =
      callFramed (m.slots .byValue) m.framed := by
  cases hf : m.body.closure? with
  | none => rw [inPlace?_of_raw hf]; rfl
  | some f =>
    rw [inPlace?_of_closure? hf, framed_of_closure? hf, slots_of_closure? hf]
    exact f.callInPlace_eq_callFramed _

theorem callInPlace_widened :
    callInPlace m.inPlaceWidened? (m.slots .byValue) m.widened =
      callFramed (m.slots .byValue) m.widened := by
  cases hf : m.body.closure? with
  | none => rw [inPlaceWidened?, inPlace?_of_raw hf]; rfl
  | some f =>
    rw [inPlaceWidened?_of_closure? hf, widened_of_closure? hf, slots_of_closure? hf]
    exact f.boxed.callInPlace_eq_callFramed _

theorem callInPlace_erased :
    callInPlace m.inPlaceErased? (m.slots .byValue) m.erased =
      callFramed (m.slots .byValue) m.erased := by
  cases hf : m.body.closure? with
  | none => rw [inPlaceErased?, inPlaceWidened?, inPlace?_of_raw hf]; rfl
  | some f =>
    rw [inPlaceErased?_of_closure? hf, erased_of_closure? hf, slots_of_closure? hf]
    exact f.boxed.callInPlace_eq_callFramed _

/-! ### Compiling without the attempt -/

/-- Compile for any receiver and a boxed result, without an attempt in place. -/
def compileFramed : Except Refusal (MethodDelegate Instance Value) :=
  match (Member.method m : Member _).planSlots .object .any .byValue with
  | .error refusal => .error refusal
  | .ok (plan, slots) => .ok ⟨plan, callFramed slots m.erased⟩

/-- Compile for receiver `T` and result `R`, without an attempt in place. -/
def compileTypedFramed (T R : TypeTag) : Except Refusal (MethodDelegate T.Carrier R.Carrier) :=
  match (Member.method m : Member _).planSlots T R .byValue with
  | .error refusal => .error refusal
  | .ok (plan, slots) =>
    match m.entry? T R with
    | none => .error plan.noEntry
    | some entry => .ok ⟨plan, callFramed slots entry⟩

theorem slots_of_planSlots {I R : TypeTag} {variant : Variant} {plan : Plan} {slots : List Slot}
    (h : (Member.method m : Member _).planSlots I R variant = .ok (plan, slots)) :
    slots = m.slots variant :=
  (Member.slots_of_planSlots (by simp [Member.kind]) h).1

/-- A request is refused, or planned with the slots of the method. -/
theorem planSlots_cases (I R : TypeTag) (variant : Variant) :
    (∃ refusal, (Member.method m : Member _).planSlots I R variant = .error refusal) ∨
      ∃ plan, (Member.method m : Member _).planSlots I R variant = .ok (plan, m.slots variant) := by
  cases hplan : (Member.method m : Member _).planSlots I R variant with
  | error refusal => exact .inl ⟨refusal, rfl⟩
  | ok planned =>
    obtain ⟨plan, slots⟩ := planned
    obtain rfl := m.slots_of_planSlots hplan
    exact .inr ⟨plan, rfl⟩

/-- **Compiling for any receiver is compiling without the attempt.** -/
theorem compile_eq_compileFramed : m.compile = m.compileFramed := by
  rw [compile, compileFramed]
  cases hplan : (Member.method m : Member _).planSlots .object .any .byValue with
  | error refusal => rfl
  | ok planned =>
    obtain ⟨plan, slots⟩ := planned
    obtain rfl := m.slots_of_planSlots hplan
    simp only [m.callInPlace_erased]

/-- **Compiling for given types is compiling without the attempt.** -/
theorem compileTyped_eq_compileTypedFramed (T R : TypeTag) :
    m.compileTyped T R = m.compileTypedFramed T R := by
  rw [compileTyped, compileTypedFramed]
  cases hplan : (Member.method m : Member _).planSlots T R .byValue with
  | error refusal => rfl
  | ok planned =>
    obtain ⟨plan, slots⟩ := planned
    obtain rfl := m.slots_of_planSlots hplan
    cases hentry : m.entry? T R with
    | none => rfl
    | some entry =>
      -- two requests are left, and each is known by its entry
      obtain ⟨rfl, rfl | rfl⟩ := m.asked_of_entry? hentry
      · rw [m.entry?_any] at hentry
        obtain rfl := Option.some.inj hentry
        simp only [m.inPlaceEntry?_any, m.callInPlace_widened]
      · rw [m.entry?_result] at hentry
        obtain rfl := Option.some.inj hentry
        simp only [m.inPlaceEntry?_result, m.callInPlace_framed]

/-! ### Calls that are accounted for -/

/-- Compiling for any receiver succeeds. -/
theorem exists_compile :
    ∃ plan, m.compile = .ok ⟨plan, callInPlace m.inPlaceErased? (m.slots .byValue) m.erased⟩ := by
  obtain ⟨plan, hplan⟩ := m.planSlots_eq_ok (R := .any) .byValue (.inl rfl) (.inl rfl)
  exact ⟨plan, by rw [compile, hplan]⟩

/-- Compiling for the declaring type and a boxed result succeeds. -/
theorem exists_compileTyped_any :
    ∃ plan, m.compileTyped declaring .any =
      .ok ⟨plan, callInPlace m.inPlaceWidened? (m.slots .byValue) m.widened⟩ := by
  obtain ⟨plan, hplan⟩ := m.planSlots_eq_ok (R := .any) .byValue (.inr rfl) (.inl rfl)
  refine ⟨plan, ?_⟩
  rw [compileTyped, hplan]
  simp only [m.entry?_any, m.inPlaceEntry?_any]

/-- Compiling for the declaring type and the declared result succeeds. -/
theorem exists_compileTyped_result :
    ∃ plan, m.compileTyped declaring m.result =
      .ok ⟨plan, callInPlace m.inPlace? (m.slots .byValue) m.framed⟩ := by
  obtain ⟨plan, hplan⟩ := m.planSlots_eq_ok (R := m.result) .byValue (.inr rfl) (.inr rfl)
  refine ⟨plan, ?_⟩
  rw [compileTyped, hplan]
  simp only [m.entry?_result, m.inPlaceEntry?_result]

section Closure

variable {m} {f : Closure declaring.Carrier m.result.Carrier} (hf : m.body.closure? = some f)

include hf

theorem traced_erased : f.boxed.Traced (.tagged declaring) m.inPlaceErased?
    (callInPlace m.inPlaceErased? (m.slots .byValue) m.erased) := by
  rw [inPlaceErased?_of_closure? hf, erased_of_closure? hf, slots_of_closure? hf]
  exact f.boxed.traced _

theorem traced_widened : f.boxed.Traced (.bare _) m.inPlaceWidened?
    (callInPlace m.inPlaceWidened? (m.slots .byValue) m.widened) := by
  rw [inPlaceWidened?_of_closure? hf, widened_of_closure? hf, slots_of_closure? hf]
  exact f.boxed.traced _

theorem traced_framed : f.Traced (.bare _) m.inPlace?
    (callInPlace m.inPlace? (m.slots .byValue) m.framed) := by
  rw [inPlace?_of_closure? hf, framed_of_closure? hf, slots_of_closure? hf]
  exact f.traced _

end Closure

end Method

/-! ### Constructors -/

section Constructing

variable {ρ : Type} (slots : List Slot) (entry : List Value → Except (Fault BindError) ρ)

/-- An entry that constructs, as one that calls on a receiver without a state. -/
def asCall : Entry Unit ρ := fun s frame => ⟨⟨s, entry frame.values⟩, frame.values⟩

/-- An attempt to construct in place, likewise. -/
def asAttempt (attempt : List Value → Ending (Option ρ)) : InPlaceEntry Unit ρ :=
  fun s args => ⟨s, (attempt args).outcome⟩

theorem callFramed_asCall :
    callFramed slots (asCall entry) = fun s args => ⟨s, construct slots entry args⟩ := by
  funext s args
  simp only [callFramed, construct, asCall]
  cases marshal args slots <;> rfl

theorem callInPlace_asCall (attempt : List Value → Ending (Option ρ)) :
    callInPlace (some (asAttempt attempt)) slots (asCall entry) =
      fun s args => ⟨s, constructInPlace (some attempt) slots entry args⟩ := by
  funext s args
  simp only [callInPlace, constructInPlace, asAttempt, callFramed_asCall]
  rcases attempt args with text | _ | made <;> rfl

/-- Constructing in place is constructing through a frame, if calling is. -/
theorem constructInPlace_eq_construct {attempt : List Value → Ending (Option ρ)}
    (h : callInPlace (some (asAttempt attempt)) slots (asCall entry) =
      callFramed slots (asCall entry)) :
    constructInPlace (some attempt) slots entry = construct slots entry := by
  rw [callInPlace_asCall, callFramed_asCall] at h
  funext args
  exact congrArg Reply.outcome (congrFun (congrFun h ()) args)

end Constructing

namespace Constructor

variable {declaring : TypeTag} (c : Constructor declaring)

/-- The function a constructor is given by.  It has no state to look at. -/
def closure : Closure Unit declaring.Carrier := ⟨c.types, fun s xs => (s, c.run xs)⟩

/-- The same, with the instance boxed. -/
def closureBy {ρ : Type} (box : declaring.Carrier → ρ) : Closure Unit ρ :=
  ⟨c.types, fun s xs => (s, (c.run xs).map box)⟩

theorem asCall_framed : asCall c.framed = c.closure.framed (.bare _) := by
  funext s frame
  simp only [asCall, framed, Closure.framed, Closure.enter, closure, Packing.bare]
  cases Args.readFrame frame.values 0 c.types <;> rfl

theorem inPlace_eq_closure : asAttempt c.inPlace = c.closure.inPlace (.bare _) := by
  funext s args
  simp only [asAttempt, inPlace, Closure.inPlace, Closure.attempt, closure, Packing.bare]
  cases Args.readExact? args 0 c.types with
  | none => rfl
  | some xs => simp only [Ending.map_outcome]

theorem constructInPlace_framed :
    constructInPlace (some c.inPlace) (c.slots .byValue) c.framed =
      construct (c.slots .byValue) c.framed := by
  refine constructInPlace_eq_construct _ _ ?_
  rw [c.inPlace_eq_closure, c.asCall_framed]
  exact c.closure.callInPlace_eq_callFramed _

section Boxed

variable {ρ : Type} (box : declaring.Carrier → ρ)

theorem asCall_erasedBy : asCall (c.erasedBy box) = (c.closureBy box).framed (.bare _) := by
  funext s frame
  simp only [asCall, erasedBy, framed, Closure.framed, Closure.enter, closureBy, Packing.bare]
  cases Args.readFrame frame.values 0 c.types with
  | error fault => rfl
  | ok xs => simp only [Ending.map_outcome]

theorem inPlaceErasedBy_eq_closure :
    asAttempt (c.inPlaceErasedBy box) = (c.closureBy box).inPlace (.bare _) := by
  funext s args
  simp only [asAttempt, inPlaceErasedBy, inPlace, Closure.inPlace, Closure.attempt, closureBy,
    Packing.bare]
  cases Args.readExact? args 0 c.types with
  | none => rfl
  | some xs =>
    simp only
    cases c.run xs <;> rfl

/-- **Constructing in place is constructing through a frame**, however the instance is boxed. -/
theorem constructInPlace_erasedBy :
    constructInPlace (some (c.inPlaceErasedBy box)) (c.slots .byValue) (c.erasedBy box) =
      construct (c.slots .byValue) (c.erasedBy box) := by
  refine constructInPlace_eq_construct _ _ ?_
  rw [c.inPlaceErasedBy_eq_closure, c.asCall_erasedBy]
  exact (c.closureBy box).callInPlace_eq_callFramed _

/-- Compiling for an instance that is boxed succeeds. -/
theorem exists_compileBy : ∃ plan, c.compileBy box =
    .ok ⟨plan, constructInPlace (some (c.inPlaceErasedBy box)) (c.slots .byValue)
      (c.erasedBy box)⟩ := by
  obtain ⟨plan, hplan⟩ := c.planSlots_eq_ok (I := .any) (R := .any) .byValue (.inl rfl)
  exact ⟨plan, by rw [compileBy, hplan]⟩

end Boxed

theorem asCall_erased : asCall c.erased = c.closure.boxed.framed (.bare _) := c.asCall_erasedBy _

theorem inPlaceErased_eq_closure :
    asAttempt c.inPlaceErased = c.closure.boxed.inPlace (.bare _) := c.inPlaceErasedBy_eq_closure _

/-- Compile for a boxed instance, without an attempt in place. -/
def compileFramed : Except Refusal (ConstructorDelegate Value) :=
  match (Member.constructor c : Member _).planSlots .any .any .byValue with
  | .error refusal => .error refusal
  | .ok (plan, slots) => .ok ⟨plan, construct slots c.erased⟩

/-- Compile for an instance of type `T`, without an attempt in place. -/
def compileTypedFramed (T : TypeTag) : Except Refusal (ConstructorDelegate T.Carrier) :=
  match (Member.constructor c : Member _).planSlots .any T .byValue with
  | .error refusal => .error refusal
  | .ok (plan, slots) =>
    match c.typed? T with
    | none => .error plan.noEntry
    | some entry => .ok ⟨plan, construct slots entry⟩

theorem slots_of_planSlots {I R : TypeTag} {variant : Variant} {plan : Plan} {slots : List Slot}
    (h : (Member.constructor c : Member _).planSlots I R variant = .ok (plan, slots)) :
    slots = c.slots variant :=
  (Member.slots_of_planSlots (by simp [Member.kind]) h).1

theorem compile_eq_compileFramed : c.compile = c.compileFramed := by
  rw [compile, compileBy, compileFramed]
  cases hplan : (Member.constructor c : Member _).planSlots .any .any .byValue with
  | error refusal => rfl
  | ok planned =>
    obtain ⟨plan, slots⟩ := planned
    obtain rfl := c.slots_of_planSlots hplan
    simp only [c.constructInPlace_erasedBy]
    rfl

theorem typed?_self : c.typed? declaring = some c.framed := dif_pos rfl

theorem inPlace?_self : c.inPlace? declaring = some c.inPlace := dif_pos rfl

theorem typed?_foreign {T : TypeTag} (h : declaring ≠ T) : c.typed? T = none := dif_neg h

theorem compileTyped_eq_compileTypedFramed (T : TypeTag) :
    c.compileTyped T = c.compileTypedFramed T := by
  rw [compileTyped, compileTypedFramed]
  cases hplan : (Member.constructor c : Member _).planSlots .any T .byValue with
  | error refusal => rfl
  | ok planned =>
    obtain ⟨plan, slots⟩ := planned
    obtain rfl := c.slots_of_planSlots hplan
    by_cases hT : declaring = T
    · subst hT
      simp only [c.typed?_self, c.inPlace?_self, c.constructInPlace_framed]
    · simp only [c.typed?_foreign hT]

/-- Compiling for a plain value succeeds. -/
theorem exists_compile : ∃ plan, c.compile =
    .ok ⟨plan, constructInPlace (some c.inPlaceErased) (c.slots .byValue) c.erased⟩ :=
  c.exists_compileBy _

/-- Compiling for the constructed type succeeds. -/
theorem exists_compileTyped : ∃ plan, c.compileTyped declaring =
    .ok ⟨plan, constructInPlace (some c.inPlace) (c.slots .byValue) c.framed⟩ := by
  obtain ⟨plan, hplan⟩ := c.planSlots_eq_ok (I := .any) (R := declaring) .byValue (.inr rfl)
  refine ⟨plan, ?_⟩
  rw [compileTyped, hplan]
  simp only [c.typed?_self, c.inPlace?_self]

theorem traced_erased : c.closure.boxed.Traced (.bare _)
    (some (asAttempt c.inPlaceErased))
    (fun s args =>
      ⟨s, constructInPlace (some c.inPlaceErased) (c.slots .byValue) c.erased args⟩) := by
  rw [← callInPlace_asCall, c.inPlaceErased_eq_closure, c.asCall_erased]
  exact c.closure.boxed.traced _

theorem traced_framed : c.closure.Traced (.bare _)
    (some (asAttempt c.inPlace))
    (fun s args => ⟨s, constructInPlace (some c.inPlace) (c.slots .byValue) c.framed args⟩) := by
  rw [← callInPlace_asCall, c.inPlace_eq_closure, c.asCall_framed]
  exact c.closure.traced _

end Constructor

/-! ### The short cut does not show -/

/-- **The attempt in place is invisible.**  For a method and a constructor given by functions, the
delegates are those compiled without the attempt, whatever types they are compiled for.  Their calls
run the function at most once, and an attempt that declines has not run it. -/
theorem inPlace_invisible {declaring : TypeTag} (m : Method declaring)
    {f : Closure declaring.Carrier m.result.Carrier} (hf : m.body.closure? = some f)
    (c : Constructor declaring) :
    (m.compile = m.compileFramed ∧ ∀ T R, m.compileTyped T R = m.compileTypedFramed T R) ∧
    (c.compile = c.compileFramed ∧ ∀ T, c.compileTyped T = c.compileTypedFramed T) ∧
    (∃ d, m.compile = .ok d ∧ f.boxed.Traced (.tagged declaring) m.inPlaceErased? d.call) ∧
    (∃ d, m.compileTyped declaring .any = .ok d ∧
      f.boxed.Traced (.bare _) (m.inPlaceEntry? declaring .any) d.call) ∧
    (∃ d, m.compileTyped declaring m.result = .ok d ∧
      f.Traced (.bare _) (m.inPlaceEntry? declaring m.result) d.call) ∧
    (∃ d, c.compile = .ok d ∧
      c.closure.boxed.Traced (.bare _) (some (asAttempt c.inPlaceErased))
        fun s args => ⟨s, d.call args⟩) ∧
    (∃ d, c.compileTyped declaring = .ok d ∧
      c.closure.Traced (.bare _) (some (asAttempt c.inPlace))
        fun s args => ⟨s, d.call args⟩) := by
  obtain ⟨untyped, huntyped⟩ := m.exists_compile
  obtain ⟨boxed, hboxed⟩ := m.exists_compileTyped_any
  obtain ⟨typed, htyped⟩ := m.exists_compileTyped_result
  obtain ⟨erased, herased⟩ := c.exists_compile
  obtain ⟨framed, hframed⟩ := c.exists_compileTyped
  refine ⟨⟨m.compile_eq_compileFramed, m.compileTyped_eq_compileTypedFramed⟩,
    ⟨c.compile_eq_compileFramed, c.compileTyped_eq_compileTypedFramed⟩, ?_, ?_, ?_, ?_, ?_⟩
  · exact ⟨_, huntyped, Method.traced_erased hf⟩
  · refine ⟨_, hboxed, ?_⟩
    rw [m.inPlaceEntry?_any]
    exact Method.traced_widened hf
  · refine ⟨_, htyped, ?_⟩
    rw [m.inPlaceEntry?_result]
    exact Method.traced_framed hf
  · exact ⟨_, herased, c.traced_erased⟩
  · exact ⟨_, hframed, c.traced_framed⟩

/-- A literal is not a text but is widened to one: the attempt declines without a run, and the call
resets the subject through a frame. -/
theorem inPlace_invisible_reset :
    ∃ f : Closure Subject.type.Carrier Subject.methods[2].result.Carrier,
      Subject.methods[2].body.closure? = some f ∧
      (f.boxed.attempt (.tagged Subject.type) ⟨Subject.type, Subject.make "x"⟩
        [.boxed (.leaf .literal "a"), .text "b"]).runs = 0 ∧
      ∃ d, Subject.methods[2].compile = .ok d ∧
        d.call ⟨Subject.type, Subject.make "x"⟩ [.boxed (.leaf .literal "a"), .text "b"] =
          ⟨⟨Subject.type, Subject.make "a/b"⟩, .ok .null⟩ := by
  have hf : Subject.methods[2].body.closure? = some _ := rfl
  obtain ⟨-, -, ⟨d, hd, htraced⟩, -⟩ := inPlace_invisible Subject.methods[2] hf Subject.constructor
  refine ⟨_, hf, ?_, d, hd, ?_⟩
  · exact (htraced.declined _ _ (.inl rfl)).2
  · rw [htraced.call_eq]
    rfl

end LateBinding
