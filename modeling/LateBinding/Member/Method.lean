import LateBinding.Call
import LateBinding.Binding

/-!
# Methods

A method works on a receiver of its declaring type.  It is given as a function with typed arguments,
which only reads the receiver or also writes to it, and may stop half-way; or as a raw body, which
works on the frame itself, may replace arguments, look at who else has a handle on them, and fail as
well.

* `MethodBody`, `Method` — the body, and the method with name, result type and visibility;
* `Method.framed`, `Method.widened`, `Method.erased` — entry points reading a frame at three levels
  of typing: receiver and result typed, receiver typed and result boxed, any receiver and result
  boxed;
* `Method.inPlace?` and its two siblings — the same reading arguments in place; raw bodies have
  none;
* `Method.entry?`, `Method.inPlaceEntry?` — the entry points for a receiver and a result type asked
  for;
* `Method.invoke`, `Method.invokeByRef` — the reflective calls.
-/

namespace LateBinding

/-- What a method does. -/
inductive MethodBody (declaring result : TypeTag) where
  /-- A function that reads the receiver. -/
  | shared (types : List TypeTag) (run : declaring.Carrier → Args types → Ending result.Carrier)
  /-- A function that may change the receiver, and has changed it even if it stops half-way. -/
  | exclusive (types : List TypeTag)
      (run : declaring.Carrier → Args types → declaring.Carrier × Ending result.Carrier)
  /-- A body that works on the frame; it may replace values there, but not add or remove any. -/
  | raw (formals : List Formal) (run : Entry declaring.Carrier result.Carrier)
      (keepsLength : ∀ s frame, (run s frame).args.length = frame.values.length)

def MethodBody.formals {declaring result : TypeTag} : MethodBody declaring result → List Formal
  | shared types _ | exclusive types _ => types.map .byValue
  | raw formals _ _ => formals

/-- A method of type `declaring`. -/
structure Method (declaring : TypeTag) where
  name : String
  visibility : Visibility
  /-- Parameter names, the first ones at least. -/
  names : List String
  /-- Result type; `unit` when there is no result. -/
  result : TypeTag
  body : MethodBody declaring result

namespace Method

variable {declaring : TypeTag} (m : Method declaring)

def formals : List Formal := m.body.formals

def parameters : List Parameter := Parameter.listOf m.names m.formals

def arity : Nat := m.formals.length

/-- The result type, if there is a result. -/
def returns : Option TypeTag := if m.result = .unit then none else some m.result

/-- Whether the method may replace any of its arguments. -/
def hasByRef : Bool := m.formals.any Formal.byRef

def render : String :=
  (if m.visibility = .hidden then "private " else "") ++ s!"{declaring.name}::{m.name}" ++
    Signature.render m.parameters ++
    match m.returns with
    | some T => s!" -> {T.name}"
    | none => ""

def shown : String := s!"MethodInfo({m.render})"

/-! ### Entry points that read a frame -/

/-- Receiver and result typed. -/
def framed : Entry declaring.Carrier m.result.Carrier := fun s frame =>
  match m.body with
  | .shared types run =>
    match Args.readFrame frame.values 0 types with
    | .error fault => .stopped s frame.values fault
    | .ok args => ⟨⟨s, (run s args).outcome⟩, frame.values⟩
  | .exclusive types run =>
    match Args.readFrame frame.values 0 types with
    | .error fault => .stopped s frame.values fault
    | .ok args =>
      let (s', ending) := run s args
      ⟨⟨s', ending.outcome⟩, frame.values⟩
  | .raw _ run _ => run s frame

/-- Receiver typed, result boxed. -/
def widened : Entry declaring.Carrier Value := fun s frame =>
  (m.framed s frame).mapResult (Value.ofCarrier m.result)

/-- Any receiver, result boxed. -/
def erased : Entry Instance Value := fun i frame =>
  if h : i.1 = declaring then (m.widened (h ▸ i.2) frame).mapReceiver (Sigma.mk declaring)
  else .stopped i frame.values (.error (i.mismatch declaring))

/-- The entry point with typed receiver `T` and typed result `R`. -/
def typed? (T R : TypeTag) : Option (Entry T.Carrier R.Carrier) :=
  if h : declaring = T ∧ m.result = R then some (h.1 ▸ h.2 ▸ m.framed) else none

/-- The entry point with typed receiver `T` and boxed result. -/
def widened? (T : TypeTag) : Option (Entry T.Carrier Value) :=
  if h : declaring = T then some (h ▸ m.widened) else none

/-- The entry point for receiver `T` and result `R`: the typed one, or the one with boxed result
when `R` is the type of all values. -/
def entry? (T R : TypeTag) : Option (Entry T.Carrier R.Carrier) :=
  match m.typed? T R with
  | some entry => some entry
  | none => if h : R = .any then h ▸ m.widened? T else none

/-! ### Entry points that read arguments in place -/

/-- Receiver and result typed. -/
def inPlace? : Option (InPlaceEntry declaring.Carrier m.result.Carrier) :=
  match m.body with
  | .shared types run => some fun s args =>
    match Args.readExact? args 0 types with
    | none => .declined s
    | some args => ⟨s, (run s args).outcome.map some⟩
  | .exclusive types run => some fun s args =>
    match Args.readExact? args 0 types with
    | none => .declined s
    | some args =>
      let (s', ending) := run s args
      ⟨s', ending.outcome.map some⟩
  | .raw _ _ _ => none

/-- Receiver typed, result boxed. -/
def inPlaceWidened? : Option (InPlaceEntry declaring.Carrier Value) :=
  m.inPlace?.map fun entry s args =>
    (entry s args).mapResult (Option.map (Value.ofCarrier m.result))

/-- Any receiver, result boxed; a foreign receiver is refused. -/
def inPlaceErased? : Option (InPlaceEntry Instance Value) :=
  m.inPlaceWidened?.map fun entry i args =>
    if h : i.1 = declaring then (entry (h ▸ i.2) args).mapReceiver (Sigma.mk declaring)
    else .refused i (i.mismatch declaring)

/-- The in-place entry point for receiver `T` and result `R`: the typed one, or the one with boxed
result when `R` is the type of all values. -/
def inPlaceEntry? (T R : TypeTag) : Option (InPlaceEntry T.Carrier R.Carrier) :=
  if h : declaring = T ∧ m.result = R then h.1 ▸ h.2 ▸ m.inPlace?
  else if h : declaring = T ∧ R = .any then h.1 ▸ h.2 ▸ m.inPlaceWidened?
  else none

/-! ### Reflective calls -/

/-- Check the receiver, then convert the arguments. -/
def prepare (i : Instance) (args : List Value) : Except BindError (List Value) :=
  if i.1 = declaring then coerceArguments m.name m.formals args else .error (i.mismatch declaring)

/-- The frame of the converted arguments. -/
def frame (args converted : List Value) : Frame := ⟨converted, renewedFor m.formals args⟩

/-- Call reflectively.  The arguments are copied, so that parameters passed by reference behave like
those passed by value. -/
def invoke (i : Instance) (args : List Value) : Reply BindError Instance Value :=
  match m.prepare i args with
  | .error e => .refused i e
  | .ok converted => (m.erased i (m.frame args converted)).toReply

/-- Copy the frame values of by-reference parameters to their positions in `args`. -/
def copyBack : List Parameter → (frame args : List Value) → List Value
  | p :: ps, v :: frame, args =>
    copyBack ps frame (if p.formal.byRef then args.set p.position v else args)
  | _, _, args => args

/-- Call reflectively, and on success copy by-reference parameters back to the container. -/
def invokeByRef (i : Instance) (args : List Value) : FrameReply BindError Instance Value :=
  match m.prepare i args with
  | .error e => ⟨.refused i e, args⟩
  | .ok converted =>
    let reply := m.erased i (m.frame args converted)
    match reply.outcome with
    | .error _ => ⟨reply.toReply, args⟩
    | .ok _ => ⟨reply.toReply, copyBack m.parameters reply.args args⟩

end Method

end LateBinding
