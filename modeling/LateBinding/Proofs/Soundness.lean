import LateBinding.Proofs.Access
import LateBinding.Proofs.Resolution

/-!
# Soundness: no call enters a member with ill-typed arguments

Declared parameter types, slots, coercions and the types that a body reads its arguments at are
stated in four places.  They agree: whatever the arguments of a call, the body is entered with one
value of its type for each parameter, or not at all, and what comes back is of the declared type.

To say so of calls, a member is compared with one that looks at its frame first and ends with a
fault when the frame does not fit.  There is no telling the two apart.

* `Method.guarded`, `TypeDef.guarded` — methods that look at their frames, and a definition with
  such methods;
* `Method.invoke_guarded`, `Method.compileTyped_guarded` and their siblings — no call notices;
* `Method.gives_erased`, `Method.gives_entry?_any` — what the entry points give;
* `Method.Sound`, `Constructor.Sound`, `Property.Sound`, `TypeDef.Sound` — the account of all ways
  to a member;
* `calls_wellTyped` — every member is sound.
-/

namespace LateBinding

/-! ### Methods that look at their frames -/

namespace Method

variable {declaring : TypeTag} (m : Method declaring) (fault : Fault BindError)

/-- The method as one that ends with a fault, and does nothing, unless its frame fits. -/
def guarded : Method declaring where
  name := m.name
  visibility := m.visibility
  names := m.names
  result := m.result
  body := .raw m.formals (Entry.guarded m.formals fault m.framed) fun s frame => by
    simp only [Entry.guarded, guard]
    split
    · exact m.framed_keepsLength s frame
    · rfl

variable {fault}

/-- Through frames that fit it is entered as before. -/
theorem framed_guarded {frame : Frame} (h : fitsEach m.formals frame.values)
    (s : declaring.Carrier) : (m.guarded fault).framed s frame = m.framed s frame := if_pos h

theorem widened_guarded {frame : Frame} (h : fitsEach m.formals frame.values)
    (s : declaring.Carrier) : (m.guarded fault).widened s frame = m.widened s frame := by
  rw [widened, m.framed_guarded h]
  rfl

theorem erased_guarded {frame : Frame} (h : fitsEach m.formals frame.values) (i : Instance) :
    (m.guarded fault).erased i frame = m.erased i frame := by
  by_cases hi : i.1 = declaring
  · rw [erased, erased, dif_pos hi, dif_pos hi, m.widened_guarded h]
  · rw [erased_foreign _ hi, erased_foreign _ hi]

/-! ### No call notices -/

theorem fitsEach_of_prepare {i : Instance} {args converted : List Value}
    (h : m.prepare i args = .ok converted) :
    fitsEach m.formals (m.frame args converted).values := by
  rw [prepare] at h
  split at h
  · exact fitsEach_of_coerced (coerced_of_coerceArguments h)
  · cases h

/-- A reflective call finds the same frame for the guarded method. -/
theorem prepare_guarded (i : Instance) (args : List Value) :
    (m.guarded fault).prepare i args = m.prepare i args := rfl

/-- **A reflective call does not notice the guard.** -/
theorem invoke_guarded : (m.guarded fault).invoke = m.invoke := by
  funext i args
  rw [invoke, invoke, m.prepare_guarded]
  cases hconverted : m.prepare i args with
  | error e => rfl
  | ok converted =>
    exact congrArg FrameReply.toReply (m.erased_guarded (m.fitsEach_of_prepare hconverted) i)

/-- **Nor does one with write-back.** -/
theorem invokeByRef_guarded : (m.guarded fault).invokeByRef = m.invokeByRef := by
  funext i args
  rw [invokeByRef, invokeByRef, m.prepare_guarded]
  cases hconverted : m.prepare i args with
  | error e => rfl
  | ok converted =>
    have herased : (m.guarded fault).erased i ((m.guarded fault).frame args converted) =
        m.erased i (m.frame args converted) :=
      m.erased_guarded (m.fitsEach_of_prepare hconverted) i
    simp only [herased]
    rfl

/-- The guarded method is planned like the method. -/
theorem planSlots_guarded (I R : TypeTag) (variant : Variant) :
    (Member.method (m.guarded fault) : Member _).planSlots I R variant =
      (Member.method m : Member _).planSlots I R variant := rfl

/-- An entry is given for the guarded method where one is given for the method, and through frames
that fit they are the same. -/
theorem entry?_guarded (T R : TypeTag) :
    entry? (m.guarded fault) T R = none ∧ m.entry? T R = none ∨
      ∃ entry entry', entry? (m.guarded fault) T R = some entry ∧ m.entry? T R = some entry' ∧
        ∀ s frame, fitsEach m.formals frame.values → entry s frame = entry' s frame := by
  by_cases hasked : T = declaring ∧ (R = .any ∨ R = m.result)
  · obtain ⟨rfl, rfl | rfl⟩ := hasked
    · exact .inr ⟨_, _, (m.guarded fault).entry?_any, m.entry?_any,
        fun s frame h => m.widened_guarded h s⟩
    · exact .inr ⟨_, _, (m.guarded fault).entry?_result, m.entry?_result,
        fun s frame h => m.framed_guarded h s⟩
  · refine .inl ⟨?_, ?_⟩
    · refine Option.eq_none_iff_forall_ne_some.mpr fun entry h => hasked ?_
      exact asked_of_entry? (m.guarded fault) h
    · refine Option.eq_none_iff_forall_ne_some.mpr fun entry h => hasked ?_
      exact m.asked_of_entry? h

/-- **A delegate for any receiver does not notice the guard**, down to its plan. -/
theorem compile_guarded : (m.guarded fault).compile = m.compile := by
  -- the guarded method has a raw body, which is never tried in place
  rw [compile_eq_compileFramed, compile_eq_compileFramed, compileFramed, compileFramed,
    m.planSlots_guarded]
  obtain ⟨refusal, hplan⟩ | ⟨plan, hplan⟩ := m.planSlots_cases .object .any .byValue
  · rw [hplan]
  · rw [hplan]
    simp only [slots, callFramed_congr fun i frame h => m.erased_guarded h i]

/-- **Nor does a delegate for given types.** -/
theorem compileTyped_guarded (T R : TypeTag) :
    (m.guarded fault).compileTyped T R = m.compileTyped T R := by
  rw [compileTyped_eq_compileTypedFramed, compileTyped_eq_compileTypedFramed, compileTypedFramed,
    compileTypedFramed, m.planSlots_guarded]
  obtain ⟨refusal, hplan⟩ | ⟨plan, hplan⟩ := m.planSlots_cases T R .byValue
  · rw [hplan]
  · rw [hplan]
    obtain ⟨hguarded, hentry⟩ | ⟨entry, entry', hguarded, hentry, hsame⟩ := m.entry?_guarded T R
    · rw [hguarded, hentry]
    · rw [hguarded, hentry]
      simp only [slots, callFramed_congr hsame]

/-- **Nor do delegates with write-back.** -/
theorem compileByRef_guarded : (m.guarded fault).compileByRef = m.compileByRef := by
  rw [compileByRef, compileByRef, m.planSlots_guarded]
  obtain ⟨refusal, hplan⟩ | ⟨plan, hplan⟩ := m.planSlots_cases .object .any .byRef
  · rw [hplan]
  · rw [hplan]
    simp only [slots, callByRef_congr fun i frame h => m.erased_guarded h i]

theorem compileByRefTyped_guarded (T R : TypeTag) :
    (m.guarded fault).compileByRefTyped T R = m.compileByRefTyped T R := by
  rw [compileByRefTyped, compileByRefTyped, m.planSlots_guarded]
  obtain ⟨refusal, hplan⟩ | ⟨plan, hplan⟩ := m.planSlots_cases T R .byRef
  · rw [hplan]
  · rw [hplan]
    obtain ⟨hguarded, hentry⟩ | ⟨entry, entry', hguarded, hentry, hsame⟩ := m.entry?_guarded T R
    · rw [hguarded, hentry]
    · rw [hguarded, hentry]
      simp only [slots, callByRef_congr hsame]

/-! ### What a method gives -/

theorem gives_widened (s : declaring.Carrier) (frame : Frame) :
    Gives m.result (m.widened s frame).outcome := gives_map_ofCarrier _

theorem gives_erased (i : Instance) (frame : Frame) :
    Gives m.result (m.erased i frame).outcome := by
  rw [erased]
  split
  · exact m.gives_widened _ frame
  · exact gives_error _

theorem gives_entry?_any {T : TypeTag} {entry : Entry T.Carrier Value}
    (h : m.entry? T .any = some entry) (s : T.Carrier) (frame : Frame) :
    Gives m.result (entry s frame).outcome := by
  obtain ⟨rfl, -⟩ := m.asked_of_entry? h
  rw [m.entry?_any] at h
  obtain rfl := Option.some.inj h
  exact m.gives_widened s frame

theorem gives_invoke (i : Instance) (args : List Value) :
    Gives m.result (m.invoke i args).outcome := by
  rw [invoke]
  cases m.prepare i args with
  | error e => exact gives_error _
  | ok converted => exact m.gives_erased i (m.frame args converted)

theorem gives_invokeByRef (i : Instance) (args : List Value) :
    Gives m.result (m.invokeByRef i args).outcome := by
  rw [invokeByRef]
  cases m.prepare i args with
  | error e => exact gives_error _
  | ok converted =>
    simp only
    split <;> exact m.gives_erased i (m.frame args converted)

/-! ### Sound methods -/

variable (fault)

/-- A method of which every call enters the body with a frame that fits, if it enters it, and gives
values of the declared result type. -/
structure Sound : Prop where
  /-- Frames that fit can be read by the function the method is given by. -/
  reads : ∀ f, m.body.closure? = some f → ∀ frame, fitsEach m.formals frame →
    ∃ xs, Args.readFrame frame 0 f.types = .ok xs
  invoke_eq : (m.guarded fault).invoke = m.invoke
  invokeByRef_eq : (m.guarded fault).invokeByRef = m.invokeByRef
  compile_eq : (m.guarded fault).compile = m.compile
  compileTyped_eq : ∀ T R, (m.guarded fault).compileTyped T R = m.compileTyped T R
  compileByRef_eq : (m.guarded fault).compileByRef = m.compileByRef
  compileByRefTyped_eq : ∀ T R, (m.guarded fault).compileByRefTyped T R = m.compileByRefTyped T R
  invoke_gives : ∀ i args, Gives m.result (m.invoke i args).outcome
  invokeByRef_gives : ∀ i args, Gives m.result (m.invokeByRef i args).outcome
  compile_gives : ∀ d, m.compile = .ok d → ∀ i args, Gives m.result (d.call i args).outcome
  compileTyped_gives : ∀ T d, m.compileTyped T .any = .ok d →
    ∀ s args, Gives m.result (d.call s args).outcome
  compileByRef_gives : ∀ d, m.compileByRef = .ok d →
    ∀ i args, Gives m.result (d.call i args).outcome
  compileByRefTyped_gives : ∀ T d, m.compileByRefTyped T .any = .ok d →
    ∀ s args, Gives m.result (d.call s args).outcome

theorem sound : m.Sound fault where
  reads := by
    intro f hf frame h
    rw [formals_of_closure? hf] at h
    exact Args.readFrame_of_fitsEach h
  invoke_eq := m.invoke_guarded
  invokeByRef_eq := m.invokeByRef_guarded
  compile_eq := m.compile_guarded
  compileTyped_eq := m.compileTyped_guarded
  compileByRef_eq := m.compileByRef_guarded
  compileByRefTyped_eq := m.compileByRefTyped_guarded
  invoke_gives := m.gives_invoke
  invokeByRef_gives := m.gives_invokeByRef
  compile_gives := by
    intro d h
    rw [compile_eq_compileFramed, compileFramed] at h
    split at h
    · cases h
    · cases h
      exact gives_callFramed m.gives_erased
  compileTyped_gives := by
    intro T d h
    rw [compileTyped_eq_compileTypedFramed, compileTypedFramed] at h
    split at h
    · cases h
    split at h
    · cases h
    · rename_i entry hentry
      cases h
      exact gives_callFramed (m.gives_entry?_any hentry)
  compileByRef_gives := by
    intro d h
    rw [compileByRef] at h
    split at h
    · cases h
    · cases h
      exact gives_callByRef m.gives_erased
  compileByRefTyped_gives := by
    intro T d h
    rw [compileByRefTyped] at h
    split at h
    · cases h
    split at h
    · cases h
    · rename_i entry hentry
      cases h
      exact gives_callByRef (m.gives_entry?_any hentry)

end Method

/-! ### Constructors -/

namespace Constructor

variable {declaring : TypeTag} (c : Constructor declaring)

/-- Reflective construction through a given entry point. -/
def invokeThrough (entry : List Value → Except (Fault BindError) Value) (args : List Value) :
    Except (Fault BindError) Value :=
  match coerceArguments s!"{declaring.name}::new" c.formals args with
  | .error e => .error (.error e)
  | .ok frame => entry frame

/-- An entry point of the constructor that ends with a fault unless the frame fits. -/
def guarding {ρ : Type} (fault : Fault BindError) :
    (List Value → Except (Fault BindError) ρ) → List Value → Except (Fault BindError) ρ :=
  guard c.formals fun _ => .error fault

theorem construct_guarding {ρ : Type} (fault : Fault BindError)
    (entry : List Value → Except (Fault BindError) ρ) :
    construct (c.slots .byValue) (c.guarding fault entry) = construct (c.slots .byValue) entry :=
  construct_congr fun _ h => guard_of_fitsEach h

theorem constructInPlace_guarding {ρ : Type} (fault : Fault BindError)
    (attempt? : Option (List Value → Ending (Option ρ)))
    (entry : List Value → Except (Fault BindError) ρ) :
    constructInPlace attempt? (c.slots .byValue) (c.guarding fault entry) =
      constructInPlace attempt? (c.slots .byValue) entry := by
  funext args
  simp only [constructInPlace, c.construct_guarding]

theorem invokeThrough_guarding (fault : Fault BindError) :
    c.invokeThrough (c.guarding fault c.erased) = c.invoke := by
  funext args
  rw [invokeThrough, invoke, invokeBy]
  cases hframe : coerceArguments s!"{declaring.name}::new" c.formals args with
  | error e => rfl
  | ok frame => exact guard_of_fitsEach (fitsEach_of_coerced (coerced_of_coerceArguments hframe))

theorem gives_erased (frame : List Value) : Gives declaring (c.erased frame) :=
  gives_map_ofCarrier _

theorem gives_invoke (args : List Value) : Gives declaring (c.invoke args) := by
  rw [invoke, invokeBy]
  cases coerceArguments s!"{declaring.name}::new" c.formals args with
  | error e => exact gives_error _
  | ok frame => exact c.gives_erased frame

/-- A constructor of which every call enters the body with a frame that fits, if it enters it, and
gives values of the constructed type. -/
structure Sound (fault : Fault BindError) : Prop where
  /-- Frames that fit can be read. -/
  reads : ∀ frame, fitsEach c.formals frame → ∃ xs, Args.readFrame frame 0 c.types = .ok xs
  invoke_eq : c.invokeThrough (c.guarding fault c.erased) = c.invoke
  compile_eq : ∃ plan, c.compile = .ok ⟨plan, constructInPlace (some c.inPlaceErased)
    (c.slots .byValue) (c.guarding fault c.erased)⟩
  compileTyped_eq : ∃ plan, c.compileTyped declaring = .ok ⟨plan, constructInPlace (some c.inPlace)
    (c.slots .byValue) (c.guarding fault c.framed)⟩
  invoke_gives : ∀ args, Gives declaring (c.invoke args)
  compile_gives : ∀ d, c.compile = .ok d → ∀ args, Gives declaring (d.call args)

theorem sound (fault : Fault BindError) : c.Sound fault where
  reads := fun _ h => Args.readFrame_of_fitsEach h
  invoke_eq := c.invokeThrough_guarding fault
  compile_eq := by
    obtain ⟨plan, hplan⟩ := c.exists_compile
    refine ⟨plan, hplan.trans ?_⟩
    rw [c.constructInPlace_guarding]
  compileTyped_eq := by
    obtain ⟨plan, hplan⟩ := c.exists_compileTyped
    refine ⟨plan, hplan.trans ?_⟩
    rw [c.constructInPlace_guarding]
  invoke_gives := c.gives_invoke
  compile_gives := by
    intro d h
    rw [compile_eq_compileFramed, compileFramed] at h
    split at h
    · cases h
    · cases h
      exact gives_construct c.gives_erased

end Constructor

/-! ### Properties -/

/-- A property of which every write takes a datum of the property's type, and every read gives a
value of that type. -/
structure Property.Sound {declaring : TypeTag} (p : Property declaring) : Prop where
  /-- A coerced value fits, and its datum can be taken. -/
  takes : ∀ v w : Value, v.coerce p.type = some w →
    fitsEach (Member.setter p).formals [w] ∧ ∃ x, w.takeValue p.type = .ok x
  set_assigns : ∀ store, p.write? = some store →
    p.Assigns store (.tagged declaring) id false p.set
  compileSetter_assigns : ∀ store, p.write? = some store →
    ∃ d, p.compileSetter = .ok d ∧ p.Assigns store (.tagged declaring) .ofBind true d.call
  compileSetterTyped_assigns : ∀ store, p.write? = some store →
    ∃ d, p.compileSetterTyped declaring .any = .ok d ∧ p.Assigns store (.bare _) .ofBind true d.call
  compileSetterTyped_stores : ∀ store, p.write? = some store →
    ∃ d, p.compileSetterTyped declaring p.type = .ok d ∧ ∀ s x, d.call s x = ⟨store s x, .ok ()⟩
  get_gives : ∀ i, Gives p.type (p.get i)
  compileGetter_gives : ∀ d, p.compileGetter = .ok d → ∀ i, Gives p.type (d.call i)
  compileGetterTyped_gives : ∀ T d, p.compileGetterTyped T .any = .ok d →
    ∀ s, Gives p.type (d.call s)

theorem Property.sound {declaring : TypeTag} (p : Property declaring) : p.Sound where
  takes := by
    intro v w h
    obtain ⟨x, -, htake⟩ := Value.takeValue_of_coerce h
    have hfits : (Formal.byValue p.type).fits w := Formal.fits_of_coerce h
    refine ⟨?_, x, htake⟩
    show ((Formal.byValue p.type).fits w && true) = true
    rw [hfits, Bool.and_self]
  set_assigns := fun _ hp => assigns_set hp
  compileSetter_assigns := fun _ hp => assigns_compileSetter hp
  compileSetterTyped_assigns := fun _ hp => assigns_compileSetterTyped_any hp
  compileSetterTyped_stores := fun _ hp => exists_compileSetterTyped_type hp
  get_gives := p.gives_get
  compileGetter_gives := fun _ h => p.gives_compileGetter h
  compileGetterTyped_gives := fun _ _ h => p.gives_compileGetterTyped_any h

/-! ### Late-bound calls -/

namespace TypeDef

variable (t : TypeDef) (fault : Fault BindError)

/-- The definition with methods that look at their frames. -/
def guarded : TypeDef := { t with methods := t.methods.map fun m => m.guarded fault }

/-- Arguments resolve to the guarded method where they resolve to the method. -/
theorem resolveMethod_guarded (name : String) (args : List Value) :
    (t.guarded fault).resolveMethod name args =
      (t.resolveMethod name args).map fun m => m.guarded fault := by
  have hcandidates : ((t.methods.map fun m => m.guarded fault).filter fun m =>
        MethodQuery.reaches { name } m && accepts m.formals args) =
      (t.methods.filter fun m => MethodQuery.reaches { name } m && accepts m.formals args).map
        fun m => m.guarded fault := by
    rw [List.filter_map]
    rfl
  show t.single name ((t.methods.map fun m => m.guarded fault).filter fun m =>
    MethodQuery.reaches { name } m && accepts m.formals args) = _
  rw [hcandidates, t.single_map]
  rfl

/-- **A late-bound call does not notice the guard.** -/
theorem invokeMethod_guarded (name : String) (i : Instance) (args : List Value) :
    (t.guarded fault).invokeMethod name i args = t.invokeMethod name i args := by
  rw [invokeMethod, invokeMethod, t.resolveMethod_guarded]
  cases t.resolveMethod name args with
  | error e => rfl
  | ok m => exact congrFun (congrFun m.invoke_guarded i) args

/-- A definition of which late-bound calls and creations enter a body with a frame that fits, if
they enter it, and give values of the declared type. -/
structure Sound : Prop where
  invokeMethod_eq : ∀ name i args,
    (t.guarded fault).invokeMethod name i args = t.invokeMethod name i args
  invokeMethod_gives : ∀ name i args v, (t.invokeMethod name i args).outcome = .ok v →
    ∃ m, t.resolveMethod name args = .ok m ∧ v.Conforms m.result
  create_eq : ∀ args, t.create args =
    match t.resolveConstructor args with
    | .error e => .error (.error e)
    | .ok c => c.invokeThrough (c.guarding fault c.erased) args
  create_gives : ∀ args, Gives t.type (t.create args)

theorem sound : t.Sound fault where
  invokeMethod_eq := t.invokeMethod_guarded fault
  invokeMethod_gives := by
    intro name i args v h
    rw [invokeMethod] at h
    split at h
    · cases h
    · rename_i m hm
      exact ⟨m, hm, m.gives_invoke i args v h⟩
  create_eq := by
    intro args
    rw [create]
    cases t.resolveConstructor args with
    | error e => rfl
    | ok c => simp only [c.invokeThrough_guarding]
  create_gives := by
    intro args
    rw [create]
    cases t.resolveConstructor args with
    | error e => exact gives_error _
    | ok c => exact c.gives_invoke args

end TypeDef

/-- **No call enters a member with ill-typed arguments, and none gives an ill-typed result.**  Late
bound, reflective and compiled calls of the methods and constructors of a type are the same when the
bodies first look at their frames, and end with whatever fault unless these have one value of its
type for each parameter; such frames can always be read.  Setters store a datum of the property's
type or do nothing.  A call with a boxed result gives null for the unit type, any value for the type
of all values, and otherwise a value of exactly the declared type. -/
theorem calls_wellTyped (t : TypeDef) (fault : Fault BindError) :
    t.Sound fault ∧
    (∀ m : Method t.type, m.Sound fault) ∧
    (∀ c : Constructor t.type, c.Sound fault) ∧
    ∀ p : Property t.type, p.Sound :=
  ⟨t.sound fault, fun m => m.sound fault, fun c => c.sound fault, fun p => p.sound⟩

/-- The subject is formatted with a literal in the place of a text, and the guard sees a text.  Its
reset gives null or nothing, and its label takes a literal as the text it is widened to. -/
theorem calls_wellTyped_subject :
    (Subject.definition.guarded (.aborted "ill-typed")).invokeMethod "format"
        ⟨Subject.type, Subject.make "x"⟩ [.ofCarrier .literal "a", .text "b"] =
      ⟨⟨Subject.type, Subject.make "x"⟩, .ok (.text "a-b-x")⟩ ∧
    (∃ d, Subject.methods[2].compile = .ok d ∧
      ∀ i args v, (d.call i args).outcome = .ok v → v = .null) ∧
    Subject.labelProperty.set ⟨Subject.type, Subject.make "x"⟩ ⟨.ofCarrier .literal "a", true⟩ =
      ⟨⟨Subject.type, Subject.make "a"⟩, .ok ()⟩ := by
  obtain ⟨hlate, hmethods, -, hproperties⟩ :=
    calls_wellTyped Subject.definition (.aborted "ill-typed")
  refine ⟨?_, ?_, ?_⟩
  · rw [hlate.invokeMethod_eq]
    rfl
  · obtain ⟨plan, hplan⟩ := Subject.methods[2].exists_compile
    exact ⟨_, hplan, (hmethods Subject.methods[2]).compile_gives _ hplan⟩
  · exact (hproperties Subject.labelProperty).set_assigns _ rfl _ _

end LateBinding
