import LateBinding.Call
import LateBinding.Memory

/-!
# Constructors

* `Constructor declaring` — a constructor of type `declaring`: a function with typed arguments, and
  its parameter names;
* `Constructor.framed`, `Constructor.erasedBy` — entry points reading a frame, with a typed and a
  boxed instance as result; `Constructor.inPlace`, `Constructor.inPlaceErasedBy` — the same reading
  arguments in place;
* `Constructor.typed?`, `Constructor.inPlace?` — the typed entry points, given only to those who ask
  for the constructed type;
* `Constructor.invoke`, `Constructor.invokeOn` — the reflective call, with a plain value as result,
  and with an instance that is boxed on a memory.
-/

namespace LateBinding

/-- A constructor of type `declaring`. -/
structure Constructor (declaring : TypeTag) where
  /-- Parameter names, the first ones at least. -/
  names : List String
  types : List TypeTag
  run : Args types → Ending declaring.Carrier

/-- An instance that is still to be boxed on a memory.  How its inner values stand there, shared
with others or made for it, is up to the function that made it. -/
abbrev Unboxed (declaring : TypeTag) (μ ν : Type) :=
  (place : declaring.Carrier → μ → declaring.Holding ν × μ) → μ → ν × μ

/-- Box an instance on a memory. -/
def Memory.boxing {μ ν : Type} (m : Memory μ ν) (declaring : TypeTag) (x : declaring.Carrier) :
    Unboxed declaring μ ν := fun place u =>
  let (x, u) := place x u
  m.ofHolding u declaring x

namespace Constructor

variable {declaring : TypeTag} (c : Constructor declaring)

def formals : List Formal := c.types.map .byValue

def parameters : List Parameter := Parameter.listOf c.names c.formals

def arity : Nat := c.types.length

def render : String := s!"{declaring.name}::new" ++ Signature.render c.parameters

def shown : String := s!"ConstructorInfo({c.render})"

/-! ### Entry points -/

/-- Construct from a frame. -/
def framed (frame : List Value) : Except (Fault BindError) declaring.Carrier :=
  match Args.readFrame frame 0 c.types with
  | .error fault => .error fault
  | .ok args => (c.run args).outcome

/-- Construct from arguments in place, or decline. -/
def inPlace (args : List Value) : Ending (Option declaring.Carrier) :=
  match Args.readExact? args 0 c.types with
  | none => .ok none
  | some args => (c.run args).map some

/-- The entry point that constructs a `T` from a frame. -/
def typed? (T : TypeTag) : Option (List Value → Except (Fault BindError) T.Carrier) :=
  if h : declaring = T then some (h ▸ c.framed) else none

/-- The entry point that constructs a `T` from arguments in place. -/
def inPlace? (T : TypeTag) : Option (List Value → Ending (Option T.Carrier)) :=
  if h : declaring = T then some (h ▸ c.inPlace) else none

section Boxed

variable {ρ : Type} (box : declaring.Carrier → ρ)

/-- Construct from a frame, and box the instance. -/
def erasedBy (frame : List Value) : Except (Fault BindError) ρ := (c.framed frame).map box

/-- Construct from arguments in place, and box the instance. -/
def inPlaceErasedBy (args : List Value) : Ending (Option ρ) :=
  (c.inPlace args).map (Option.map box)

/-- Construct reflectively. -/
def invokeBy (args : List Value) : Except (Fault BindError) ρ :=
  match coerceArguments s!"{declaring.name}::new" c.formals args with
  | .error e => .error (.error e)
  | .ok frame => c.erasedBy box frame

end Boxed

def erased : List Value → Except (Fault BindError) Value := c.erasedBy (Value.ofCarrier declaring)

def inPlaceErased : List Value → Ending (Option Value) :=
  c.inPlaceErasedBy (Value.ofCarrier declaring)

/-- Construct reflectively, with a plain value as result. -/
def invoke : List Value → Except (Fault BindError) Value := c.invokeBy (Value.ofCarrier declaring)

/-- Construct reflectively, on a memory. -/
def invokeOn {μ ν : Type} (m : Memory μ ν) :
    List Value → Except (Fault BindError) (Unboxed declaring μ ν) :=
  c.invokeBy (m.boxing declaring)

end Constructor

end LateBinding
