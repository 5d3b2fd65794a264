import LateBinding.Plan.ArgExpr
import LateBinding.Memory

/-!
# Argument slots

An argument expression is lowered to a slot: which position is read, how its value is checked, and
whether the position is written back.  A call reads its frame through the slots, and afterwards
writes the frame back through them.

* `Check`, `Check.apply`, `Check.applyOwned` — the check of one value, on a copy or on the value
  itself.  A value of exactly the required type passes without a look at the widenings;
* `Slot.ofExpr`, `Slot.ofExprs` — lowering;
* `marshal`, `renewed`, `writeBack` — frame from container, which of its values are new, and back;
  `writeAt` — one value.
-/

namespace LateBinding

/-- The check of an argument. -/
inductive Check where
  /-- Anything goes. -/
  | passthrough
  /-- The value has to be of a type, or be widened to it. -/
  | checked (target : TypeTag)
  deriving DecidableEq, Repr

namespace Check

/-- The check for a declared type. -/
def ofType (T : TypeTag) : Check := if T = .any then .passthrough else .checked T

/-- The check of what an expression produces. -/
def ofExpr (e : ArgExpr) : Check :=
  match e.target? with
  | some T => ofType T
  | none => .passthrough

/-- The mismatch of a value with the required type. -/
def mismatch (T : TypeTag) (v : Value) : DelegateError := .typeMismatch T.name v.typeName

section Decision

variable {ν : Type}

/-- The coercion to a required type, when what the value holds is not of it already. -/
def coerceSlow (T : TypeTag) (content? : Option (Content ν)) :
    Except DelegateError (Retyped ν) :=
  match LateBinding.retype T content? with
  | some r => .ok r
  | none => .error (.typeMismatch T.name (Content.typeName content?))

/-- What becomes of a value that is only looked at, by what it holds. -/
def retype (content? : Option (Content ν)) : Check → Except DelegateError (Retyped ν)
  | passthrough => .ok .kept
  | checked T => if content?.map Content.tag = some T then .ok .kept else coerceSlow T content?

/-- What becomes of a value that is given up. -/
def retypeOwned (content? : Option (Content ν)) : Check → Except DelegateError (Retyped ν)
  | checked T => if content?.map Content.tag ≠ some T then coerceSlow T content? else .ok .kept
  | passthrough => .ok .kept

end Decision

/-- Check a value, and leave it to the caller. -/
def apply (c : Check) (v : Value) : Except DelegateError Value :=
  (c.retype v.content?).map (·.on v)

/-- Check a value that the caller gives up. -/
def applyOwned (c : Check) (v : Value) : Except DelegateError Value :=
  (c.retypeOwned v.content?).map (·.on v)

/-- Whether a value that passes is made anew, and not the one the caller has. -/
def renews (c : Check) (v : Value) : Bool :=
  match c.retype v.content? with
  | .ok r => r.isFresh
  | .error _ => false

end Check

/-- A lowered argument expression. -/
structure Slot where
  position : Nat
  check : Check
  /-- Whether the position is written back after the call. -/
  writesBack : Bool
  deriving DecidableEq, Repr

namespace Slot

/-- Lower an expression that reads an argument. -/
def ofExpr (e : ArgExpr) : Except Refusal Slot :=
  match e.slot? with
  | some position => .ok ⟨position, .ofExpr e, e.writesBack⟩
  | none => .error (.noArgument e.render)

/-- Lower expressions; the first that reads no argument is reported. -/
def ofExprs : List ArgExpr → Except Refusal (List Slot)
  | [] => .ok []
  | e :: es =>
    match ofExpr e with
    | .error refusal => .error refusal
    | .ok slot =>
      match ofExprs es with
      | .error refusal => .error refusal
      | .ok slots => .ok (slot :: slots)

end Slot

/-- Read and check the arguments of a call.  The first slot that is out of range or whose value
does not pass ends the call. -/
def marshal (args : List Value) : List Slot → Except (Fault DelegateError) (List Value)
  | [] => .ok []
  | slot :: slots =>
    match args[slot.position]? with
    | none => .error (.outOfBounds args.length slot.position)
    | some arg =>
      match slot.check.apply arg with
      | .error e => .error (.error e)
      | .ok v =>
        match marshal args slots with
        | .error fault => .error fault
        | .ok frame => .ok (v :: frame)

/-- Which values of a frame read through these slots are made anew. -/
def renewed (args : List Value) (slots : List Slot) (i : Nat) : Bool :=
  match slots[i]? with
  | some slot =>
    match args[slot.position]? with
    | some arg => slot.check.renews arg
    | none => false
  | none => false

/-- Replace the value at a position of a container. -/
def writeAt (args : List Value) (position : Nat) (v : Value) :
    Except (Fault DelegateError) (List Value) :=
  if position < args.length then .ok (args.set position v)
  else .error (.outOfBounds args.length position)

/-- Write frame values back to the container, slot by slot. -/
def writeBack : List Slot → (frame args : List Value) → Except (Fault DelegateError) (List Value)
  | slot :: slots, v :: frame, args =>
    if slot.writesBack then
      match writeAt args slot.position v with
      | .error fault => .error fault
      | .ok args => writeBack slots frame args
    else writeBack slots frame args
  | _, _, args => .ok args

end LateBinding
