import LateBinding.Value.Reading
import LateBinding.Value.Coercion
import LateBinding.Signature

/-!
# Calls

What goes into a call and what comes out.

* `Args` — the arguments of a member, each at its declared type;
* `Args.readFrame`, `Args.readExact?` — the two ways to read them: from a call frame, whose values
  have been converted, and from the caller's container, where an argument of another type ends the
  attempt;
* `Frame` — converted arguments, and which of them the caller has no handle on;
* `Ending` — how a function that a member was given ends;
* `Reply`, `FrameReply` — the receiver left behind and the outcome; and the container as well;
* `Entry`, `InPlaceEntry` — the entry points of a member that read arguments in those two ways;
* `coerceArguments`, `renewedFor` — the conversion of the arguments of a reflective call, and which
  of them it makes anew.
-/

namespace LateBinding

/-- Arguments of the given types. -/
abbrev Args : List TypeTag → Type
  | [] => Unit
  | T :: types => T.Carrier × Args types

namespace Args

/-- Read arguments from `frame`, from position `i` on. -/
def readFrame (frame : List Value) : (i : Nat) → (types : List TypeTag) →
    Except (Fault BindError) (Args types)
  | _, [] => .ok ()
  | i, T :: types =>
    match frame[i]? with
    | none => .error (.outOfBounds frame.length i)
    | some v =>
      match v.fromValue T with
      | .error e => .error (.error e)
      | .ok x =>
        match readFrame frame (i + 1) types with
        | .error e => .error e
        | .ok xs => .ok (x, xs)

/-- Read arguments from `args`, from position `i` on, unless one is missing or is not of exactly
its declared type. -/
def readExact? (args : List Value) : (i : Nat) → (types : List TypeTag) → Option (Args types)
  | _, [] => some ()
  | i, T :: types =>
    match args[i]?.bind (Value.fromExact? T) with
    | none => none
    | some x =>
      match readExact? args (i + 1) types with
      | none => none
      | some xs => some (x, xs)

end Args

/-- The converted arguments of a call, one for each parameter. -/
structure Frame where
  values : List Value
  /-- Whether nobody else has a handle on the datum at a position, so that it may be written to.
  The caller goes on sharing what was not made anew for the call. -/
  sole : Nat → Bool

/-- How a function ends: with a result, or half-way with a text. -/
abbrev Ending (ρ : Type) := Except String ρ

/-- How a call ends: the state of the receiver after it, and a result or a fault. -/
structure Reply (ε σ ρ : Type) where
  receiver : σ
  outcome : Except (Fault ε) ρ

/-- How a call ends that may write to its argument container. -/
structure FrameReply (ε σ ρ : Type) extends Reply ε σ ρ where
  args : List Value

namespace Reply

variable {ε ε' σ σ' ρ ρ' : Type}

/-- A call that ended with an error before anything happened. -/
def refused (receiver : σ) (e : ε) : Reply ε σ ρ := ⟨receiver, .error (.error e)⟩

def mapReceiver (f : σ → σ') (r : Reply ε σ ρ) : Reply ε σ' ρ := ⟨f r.receiver, r.outcome⟩

def mapError (f : ε → ε') (r : Reply ε σ ρ) : Reply ε' σ ρ :=
  ⟨r.receiver, r.outcome.mapError (Fault.map f)⟩

def mapResult (f : ρ → ρ') (r : Reply ε σ ρ) : Reply ε σ ρ' := ⟨r.receiver, r.outcome.map f⟩

/-- An attempt that was given up before anything happened. -/
def declined (receiver : σ) : Reply ε σ (Option ρ) := ⟨receiver, .ok none⟩

end Reply

/-- The outcome of a call that is a run of a function. -/
def Ending.outcome {ε ρ : Type} (ending : Ending ρ) : Except (Fault ε) ρ :=
  ending.mapError .aborted

namespace FrameReply

variable {ε ε' σ σ' ρ ρ' : Type}

/-- A call that ended with a fault before anything happened. -/
def stopped (receiver : σ) (args : List Value) (fault : Fault ε) : FrameReply ε σ ρ :=
  ⟨⟨receiver, .error fault⟩, args⟩

def mapReceiver (f : σ → σ') (r : FrameReply ε σ ρ) : FrameReply ε σ' ρ :=
  ⟨r.toReply.mapReceiver f, r.args⟩

def mapResult (f : ρ → ρ') (r : FrameReply ε σ ρ) : FrameReply ε σ ρ' :=
  ⟨r.toReply.mapResult f, r.args⟩

end FrameReply

/-- An entry point that reads its arguments from a frame, which it may write to. -/
abbrev Entry (σ ρ : Type) := σ → Frame → FrameReply BindError σ ρ

/-- An entry point that reads its arguments in place.  It declines, with no result, when an argument
is missing or is not of exactly its declared type. -/
abbrev InPlaceEntry (σ ρ : Type) := σ → List Value → Reply BindError σ (Option ρ)

/-! ### Reflective calls -/

/-- The mismatch of a receiver with the declaring type. -/
def InstanceOn.mismatch {ν : Type} (declaring : TypeTag) (i : InstanceOn ν) : BindError :=
  .typeMismatch declaring.name i.1.name

def coerceArgument (p : Formal) (arg : Value) : Except BindError Value :=
  match arg.coerce p.element with
  | some v => .ok v
  | none => .error (arg.mismatch p.element)

/-- Convert arguments to their declared types, in order; the first that does not convert is
reported.  The lists have one length. -/
def coerceEach : List Formal → List Value → Except BindError (List Value)
  | p :: ps, arg :: args =>
    match coerceArgument p arg with
    | .error e => .error e
    | .ok v =>
      match coerceEach ps args with
      | .error e => .error e
      | .ok vs => .ok (v :: vs)
  | _, _ => .ok []

/-- Convert the arguments of a call of `member`.  Their number is checked first. -/
def coerceArguments (member : String) (formals : List Formal) (args : List Value) :
    Except BindError (List Value) :=
  if args.length = formals.length then coerceEach formals args
  else .error (.argumentCount member formals.length args.length)

/-- Which arguments a conversion to their declared types makes anew. -/
def renewedFor (formals : List Formal) (args : List Value) (i : Nat) : Bool :=
  match formals[i]?, args[i]? with
  | some p, some arg => arg.renewed p.element
  | _, _ => false

end LateBinding
