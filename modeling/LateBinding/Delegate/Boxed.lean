import LateBinding.Delegate.Compile

/-!
# Delegates over plain values

A delegate whose types are hidden, so that delegates of all kinds fit in one table.

* `BoxedDelegate` — receiver, arguments and result are plain values; a setter takes the assigned
  value as its one argument;
* `BoxedDelegate.ofConstructor` and its siblings — hiding the types.  A receiver or an assigned
  value that is not of the delegate's type is refused.
-/

namespace LateBinding

/-- A delegate of any kind. -/
structure BoxedDelegate where
  shown : String
  plan : Plan
  /-- The type that an assigned value has to be of, for a setter. -/
  assigned? : Option TypeTag := none
  call : Value → List Value → FrameReply DelegateError Value Value

namespace BoxedDelegate

def onInstance {ρ : Type} (box : ρ → Value) (call : Instance → FrameReply DelegateError Instance ρ)
    (v : Value) : FrameReply DelegateError Value Value :=
  ((call v.toInstance).mapReceiver Instance.toValue).mapResult box

/-- Call a function on receivers of type `T`. -/
def onTyped {ρ : Type} (T : TypeTag) (box : ρ → Value)
    (call : T.Carrier → FrameReply DelegateError T.Carrier ρ) (v : Value) (args : List Value) :
    FrameReply DelegateError Value Value :=
  match v.downcast? T with
  | some s => ((call s).mapReceiver (Value.ofCarrier T)).mapResult box
  | none => .stopped v args (.error (Check.mismatch T v))

end BoxedDelegate

/-- Hide the type of the instances made. -/
def BoxedDelegate.ofConstructor (T : TypeTag) (d : ConstructorDelegate T.Carrier) :
    BoxedDelegate where
  shown := d.shown
  plan := d.plan
  call v args := ⟨⟨v, (d.call args).map (Value.ofCarrier T)⟩, args⟩

def BoxedDelegate.ofMethod (d : MethodDelegate Instance Value) : BoxedDelegate where
  shown := d.shown
  plan := d.plan
  call v args := BoxedDelegate.onInstance id (fun i => ⟨d.call i args, args⟩) v

/-- Hide receiver and result type. -/
def BoxedDelegate.ofMethodAt (T R : TypeTag) (d : MethodDelegate T.Carrier R.Carrier) :
    BoxedDelegate where
  shown := d.shown
  plan := d.plan
  call v args := BoxedDelegate.onTyped T (Value.ofCarrier R) (fun s => ⟨d.call s args, args⟩) v args

def BoxedDelegate.ofRefMethod (d : RefMethodDelegate Instance Value) : BoxedDelegate where
  shown := d.shown
  plan := d.plan
  call v args := BoxedDelegate.onInstance id (fun i => d.call i args) v

/-- Hide receiver and result type. -/
def BoxedDelegate.ofRefMethodAt (T R : TypeTag) (d : RefMethodDelegate T.Carrier R.Carrier) :
    BoxedDelegate where
  shown := d.shown
  plan := d.plan
  call v args := BoxedDelegate.onTyped T (Value.ofCarrier R) (fun s => d.call s args) v args

def BoxedDelegate.ofGetter (d : GetterDelegate Instance Value) : BoxedDelegate where
  shown := d.shown
  plan := d.plan
  call v args := ⟨⟨v, (d.call v.toInstance).mapError .error⟩, args⟩

/-- Hide receiver and value type. -/
def BoxedDelegate.ofGetterAt (T V : TypeTag) (d : GetterDelegate T.Carrier V.Carrier) :
    BoxedDelegate where
  shown := d.shown
  plan := d.plan
  call v args := BoxedDelegate.onTyped T (Value.ofCarrier V)
    (fun s => ⟨⟨s, (d.call s).mapError .error⟩, args⟩) v args

def BoxedDelegate.ofSetter (d : SetterDelegate Instance Value) : BoxedDelegate where
  shown := d.shown
  plan := d.plan
  assigned? := some .any
  call v args := BoxedDelegate.onInstance (fun () => .null)
    (fun i => ⟨d.call i ⟨args.headD .null, true⟩, args⟩) v

/-- Hide receiver and value type. -/
def BoxedDelegate.ofSetterAt (T V : TypeTag) (d : SetterDelegate T.Carrier V.Carrier) :
    BoxedDelegate where
  shown := d.shown
  plan := d.plan
  assigned? := some V
  call v args :=
    match (args.headD .null).fromValue V with
    | .error e => .stopped v args (.error (.ofBind e))
    | .ok x =>
      BoxedDelegate.onTyped T (fun () => .null) (fun s => ⟨d.call s ⟨x, true⟩, args⟩) v args

end LateBinding
