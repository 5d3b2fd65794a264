import LateBinding.Plan
import LateBinding.Plan.Slot
import LateBinding.Call

/-!
# Delegates

A delegate is a member compiled for a receiver and a result type: the plan it was compiled from,
and the call.  A call does not check the number of its arguments: one that is missing is read past
the end of the container, one in excess is ignored.

* `ConstructorDelegate`, `MethodDelegate`, `RefMethodDelegate`, `GetterDelegate`, `SetterDelegate` —
  the delegates of each kind of member, methods with and without write-back;
* `construct`, `callFramed`, `callByRef` — a call through a frame: arguments are read through the
  slots, the member is entered once, and on success the frame is written back if that is wanted;
* `constructInPlace`, `callInPlace` — the same, except that arguments which are all of their
  declared types already are read where they stand.
-/

namespace LateBinding

/-- A compiled constructor. -/
structure ConstructorDelegate (ρ : Type) where
  plan : Plan
  call : (args : List Value) → Except (Fault DelegateError) ρ

/-- A compiled method. -/
structure MethodDelegate (σ ρ : Type) where
  plan : Plan
  call : σ → (args : List Value) → Reply DelegateError σ ρ

/-- A compiled method that writes parameters passed by reference back. -/
structure RefMethodDelegate (σ ρ : Type) where
  plan : Plan
  call : σ → (args : List Value) → FrameReply DelegateError σ ρ

/-- A compiled read accessor; boxing changes the memory. -/
structure GetterDelegate (σ ρ : Type) (μ : Type := Unit) where
  plan : Plan
  callOn : σ → μ → Except DelegateError ρ × μ

/-- A compiled write accessor; converting changes the memory. -/
structure SetterDelegate (σ υ : Type) (μ : Type := Unit) where
  plan : Plan
  callOn : σ → Handed υ → μ → Reply DelegateError σ Unit × μ

/-- A call on plain values. -/
def GetterDelegate.call {σ ρ : Type} (d : GetterDelegate σ ρ) (s : σ) : Except DelegateError ρ :=
  (d.callOn s ()).1

@[inherit_doc GetterDelegate.call]
def SetterDelegate.call {σ υ : Type} (d : SetterDelegate σ υ) (s : σ) (v : Handed υ) :
    Reply DelegateError σ Unit := (d.callOn s v ()).1

/-- Forms for diagnostics. -/
def ConstructorDelegate.shown {ρ : Type} (d : ConstructorDelegate ρ) : String :=
  s!"ConstructorShim({d.plan.member})"

@[inherit_doc ConstructorDelegate.shown]
def MethodDelegate.shown {σ ρ : Type} (d : MethodDelegate σ ρ) : String :=
  s!"MethodShim({d.plan.member})"

@[inherit_doc ConstructorDelegate.shown]
def RefMethodDelegate.shown {σ ρ : Type} (d : RefMethodDelegate σ ρ) : String :=
  s!"RefMethodShim({d.plan.member})"

@[inherit_doc ConstructorDelegate.shown]
def GetterDelegate.shown {σ ρ μ : Type} (d : GetterDelegate σ ρ μ) : String :=
  s!"GetterShim({d.plan.member})"

@[inherit_doc ConstructorDelegate.shown]
def SetterDelegate.shown {σ υ μ : Type} (d : SetterDelegate σ υ μ) : String :=
  s!"SetterShim({d.plan.member})"

/-! ### Calls through a frame -/

/-- Construct through a frame. -/
def construct {ρ : Type} (slots : List Slot) (entry : List Value → Except (Fault BindError) ρ)
    (args : List Value) : Except (Fault DelegateError) ρ :=
  match marshal args slots with
  | .error fault => .error fault
  | .ok frame => (entry frame).mapError (Fault.map .ofBind)

/-- Call through a frame. -/
def callFramed {σ ρ : Type} (slots : List Slot) (entry : Entry σ ρ) (s : σ) (args : List Value) :
    Reply DelegateError σ ρ :=
  match marshal args slots with
  | .error fault => ⟨s, .error fault⟩
  | .ok values => (entry s ⟨values, renewed args slots⟩).toReply.mapError .ofBind

/-- Call through a frame, and on success write the frame back to the container. -/
def callByRef {σ ρ : Type} (slots : List Slot) (entry : Entry σ ρ) (s : σ) (args : List Value) :
    FrameReply DelegateError σ ρ :=
  match marshal args slots with
  | .error fault => .stopped s args fault
  | .ok values =>
    let reply := entry s ⟨values, renewed args slots⟩
    match reply.outcome with
    | .error _ => ⟨reply.toReply.mapError .ofBind, args⟩
    | .ok _ =>
      match writeBack slots reply.args args with
      | .ok written => ⟨reply.toReply.mapError .ofBind, written⟩
      | .error fault => .stopped reply.receiver args fault

/-! ### Calls that read arguments in place where they can -/

/-- Construct from arguments in place, or else through a frame. -/
def constructInPlace {ρ : Type} (attempt? : Option (List Value → Ending (Option ρ)))
    (slots : List Slot) (entry : List Value → Except (Fault BindError) ρ) (args : List Value) :
    Except (Fault DelegateError) ρ :=
  match attempt? with
  | none => construct slots entry args
  | some attempt =>
    match attempt args with
    | .ok (some made) => .ok made
    | .ok none => construct slots entry args
    | .error text => .error (.aborted text)

/-- Call with arguments in place, or else through a frame.  An attempt that is refused, as it is on
a foreign receiver, counts as one that was declined. -/
def callInPlace {σ ρ : Type} (attempt? : Option (InPlaceEntry σ ρ)) (slots : List Slot)
    (entry : Entry σ ρ) (s : σ) (args : List Value) : Reply DelegateError σ ρ :=
  match attempt? with
  | none => callFramed slots entry s args
  | some attempt =>
    let tried := attempt s args
    match tried.outcome with
    | .ok (some result) => ⟨tried.receiver, .ok result⟩
    | .ok none | .error (.error _) => callFramed slots entry tried.receiver args
    | .error fault => ⟨tried.receiver, .error (fault.map .ofBind)⟩

end LateBinding
