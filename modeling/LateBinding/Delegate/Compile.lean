import LateBinding.Delegate

/-!
# Compiling members

Compiling a member plans its calls, lowers the argument expressions to slots, and takes the entry
point for the types asked for.  It never runs the member.

* `Constructor.compile`, `Constructor.compileTyped`; `Constructor.compileOn` — for an instance on a
  memory;
* `Method.compile`, `Method.compileTyped` — by value; `Method.compileByRef`,
  `Method.compileByRefTyped` — with write-back;
* `Property.compileGetter`, `Property.compileGetterTyped`, `Property.compileSetter`,
  `Property.compileSetterTyped`; `Property.compileGetterOn` and its siblings — on a memory;
* `compiled` — compiling a descriptor that may not have been supplied.

The untyped functions take any receiver and give boxed results.  The typed ones take the type of the
receiver and the type of the result, or of the assigned value; with the type of all values as the
latter, a boxed result is given and a boxed value is taken.
-/

namespace LateBinding

/-- The refusal for a plan whose types the member has no entry point for. -/
def Plan.noEntry (p : Plan) : Refusal := .noEntry p.member p.tier.name

/-- Plan the calls of a member and lower the arguments. -/
def Member.planSlots {declaring : TypeTag} {ν : Type} (I R : TypeTag) (variant : Variant)
    (member : Member declaring ν) : Except Refusal (Plan × List Slot) :=
  match member.plan I R variant with
  | .error refusal => .error refusal
  | .ok plan =>
    match Slot.ofExprs plan.arguments with
    | .error refusal => .error refusal
    | .ok slots => .ok (plan, slots)

namespace Constructor

variable {declaring : TypeTag} (c : Constructor declaring)

/-- Compile for an instance that is boxed. -/
def compileBy {ρ : Type} (box : declaring.Carrier → ρ) :
    Except Refusal (ConstructorDelegate ρ) :=
  match (Member.constructor c : Member declaring).planSlots .any .any .byValue with
  | .error refusal => .error refusal
  | .ok (plan, slots) =>
    .ok ⟨plan, constructInPlace (some (c.inPlaceErasedBy box)) slots (c.erasedBy box)⟩

/-- Compile for a plain value. -/
def compile : Except Refusal (ConstructorDelegate Value) :=
  c.compileBy (Value.ofCarrier declaring)

/-- Compile for an instance that is boxed on a memory. -/
def compileOn {μ ν : Type} (m : Memory μ ν) :
    Except Refusal (ConstructorDelegate (Unboxed declaring μ ν)) :=
  c.compileBy (m.boxing declaring)

/-- Compile for an instance of type `T`, which has to be the constructed type. -/
def compileTyped (T : TypeTag) : Except Refusal (ConstructorDelegate T.Carrier) :=
  match (Member.constructor c : Member declaring).planSlots .any T .byValue with
  | .error refusal => .error refusal
  | .ok (plan, slots) =>
    match c.typed? T with
    | none => .error plan.noEntry
    | some entry => .ok ⟨plan, constructInPlace (c.inPlace? T) slots entry⟩

end Constructor

namespace Method

variable {declaring : TypeTag} (m : Method declaring)

/-- Compile for any receiver and a boxed result. -/
def compile : Except Refusal (MethodDelegate Instance Value) :=
  match (Member.method m : Member declaring).planSlots .object .any .byValue with
  | .error refusal => .error refusal
  | .ok (plan, slots) => .ok ⟨plan, callInPlace m.inPlaceErased? slots m.erased⟩

/-- Compile for receiver `T` and result `R`. -/
def compileTyped (T R : TypeTag) : Except Refusal (MethodDelegate T.Carrier R.Carrier) :=
  match (Member.method m : Member declaring).planSlots T R .byValue with
  | .error refusal => .error refusal
  | .ok (plan, slots) =>
    match m.entry? T R with
    | none => .error plan.noEntry
    | some entry => .ok ⟨plan, callInPlace (m.inPlaceEntry? T R) slots entry⟩

/-- Compile for any receiver and a boxed result, with write-back. -/
def compileByRef : Except Refusal (RefMethodDelegate Instance Value) :=
  match (Member.method m : Member declaring).planSlots .object .any .byRef with
  | .error refusal => .error refusal
  | .ok (plan, slots) => .ok ⟨plan, callByRef slots m.erased⟩

/-- Compile for receiver `T` and result `R`, with write-back. -/
def compileByRefTyped (T R : TypeTag) : Except Refusal (RefMethodDelegate T.Carrier R.Carrier) :=
  match (Member.method m : Member declaring).planSlots T R .byRef with
  | .error refusal => .error refusal
  | .ok (plan, slots) =>
    match m.entry? T R with
    | none => .error plan.noEntry
    | some entry => .ok ⟨plan, callByRef slots entry⟩

end Method

namespace Property

section Memory

variable {declaring : TypeTag} {μ ν : Type} (m : Memory μ ν) (p : Property declaring ν)

/-- Compile reading for any receiver and a boxed value. -/
def compileGetterOn : Except Refusal (GetterDelegate (InstanceOn ν) ν μ) :=
  match (Member.getter p).plan .object .any .byValue with
  | .error refusal => .error refusal
  | .ok plan =>
    match p.readErased? m with
    | none => .error plan.noEntry
    | some read =>
      .ok ⟨plan, fun i u =>
        let (outcome, u) := read i u
        (outcome.mapError .ofBind, u)⟩

/-- Compile reading for receiver `T` and value type `V`. -/
def compileGetterTypedOn (T V : TypeTag) :
    Except Refusal (GetterDelegate (T.Holding ν) (V.Holding ν) μ) :=
  match (Member.getter p).plan T V .byValue with
  | .error refusal => .error refusal
  | .ok plan =>
    match p.readEntry? m T V with
    | none => .error plan.noEntry
    | some read =>
      .ok ⟨plan, fun s u =>
        let (x, u) := read s u
        (.ok x, u)⟩

/-- The check of the value that a planned setter assigns. -/
def assignedCheck (plan : Plan) : Check :=
  match plan.arguments with
  | e :: _ => .ofExpr e
  | [] => .passthrough

/-- Write a value that is given up, once it is checked. -/
def writeChecked {σ : Type} (check : Check)
    (write : σ → Handed ν → μ → Reply BindError σ Unit) (s : σ) (v : Handed ν) (u : μ) :
    Reply DelegateError σ Unit × μ :=
  match check.retypeOwned (m.content? u v.datum) with
  | .error e => (.refused s e, u)
  | .ok r =>
    let (v, u) := r.settle m v u
    ((write s v u).mapError .ofBind, u)

/-- Compile writing for any receiver and a boxed value. -/
def compileSetterOn : Except Refusal (SetterDelegate (InstanceOn ν) ν μ) :=
  match (Member.setter p).plan .object .any .byValue with
  | .error refusal => .error refusal
  | .ok plan =>
    match p.writeErased? m with
    | none => .error plan.noEntry
    | some write => .ok ⟨plan, writeChecked m (assignedCheck plan) write⟩

/-- Compile writing for receiver `T` and value type `V`. -/
def compileSetterTypedOn (T V : TypeTag) :
    Except Refusal (SetterDelegate (T.Holding ν) (V.Holding ν) μ) :=
  match (Member.setter p).plan T V .byValue with
  | .error refusal => .error refusal
  | .ok plan =>
    match p.writeTyped? T V with
    | some write => .ok ⟨plan, fun s x u => (⟨write s x, .ok ()⟩, u)⟩
    | none =>
      match p.writeWidenedAt? m T with
      | none => .error plan.noEntry
      | some write =>
        .ok ⟨plan, fun s x u =>
          let (v, u) := m.ofHolding u V x.datum
          writeChecked m (assignedCheck plan) write s ⟨v, x.sole⟩ u⟩

end Memory

/-! ### Properties on plain values -/

variable {declaring : TypeTag} (p : Property declaring)

def compileGetter : Except Refusal (GetterDelegate Instance Value) := p.compileGetterOn .plain

def compileGetterTyped (T V : TypeTag) : Except Refusal (GetterDelegate T.Carrier V.Carrier) :=
  p.compileGetterTypedOn .plain T V

def compileSetter : Except Refusal (SetterDelegate Instance Value) := p.compileSetterOn .plain

def compileSetterTyped (T V : TypeTag) : Except Refusal (SetterDelegate T.Carrier V.Carrier) :=
  p.compileSetterTypedOn .plain T V

end Property

/-- Compile a descriptor of the given kind, if one was supplied. -/
def compiled {α β : Type} (kind : String) (compile : α → Except Refusal β) :
    (descriptor? : Option α) → Except DelegateError β
  | none => .error (.invalidMember (.noDescriptor kind))
  | some descriptor => (compile descriptor).mapError .invalidMember

end LateBinding
