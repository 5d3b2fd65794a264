import LateBinding.Samples.Host
import LateBinding.Member.Method

/-!
# Scripted methods of the sample types

A script is a raw method body given as a list of actions on the frame and on the receiver.

* `Action`, `Action.perform` — one action, which takes place as a whole or fails without effect;
* `performAll` — actions in order, up to the first failure;
* `Script`, `Script.method` — a script with its signature and result, and the method that runs it.
-/

namespace LateBinding

/-- What a script does step by step.  Positions are positions of the frame. -/
inductive Action where
  | append (position : Nat) (suffix : String)
  /-- Add to an integer, modulo its width. -/
  | add (position : Nat) (n : Word .i64)
  | set (position : Nat) (value : Value)
  | swap (first second : Nat)
  | setText (text : String)
  | setNum (num : Word .i64)
  /-- Exchange a text with the text of the receiver. -/
  | exchange (position : Nat)
  | fail (expected got : String)

/-- The value at a position of the frame. -/
def frameAt (frame : List Value) (position : Nat) : Except (Fault BindError) Value :=
  match frame[position]? with
  | some v => .ok v
  | none => .error (.outOfBounds frame.length position)

/-- The value at a position of the frame, taken as type `T`. -/
def frameAtType (T : TypeTag) (frame : List Value) (position : Nat) :
    Except (Fault BindError) T.Carrier :=
  match frameAt frame position with
  | .error fault => .error fault
  | .ok v => (v.extract T).mapError .error

/-- Perform an action on the receiver and the frame. -/
def Action.perform (h : Host) (frame : List Value) :
    Action → Except (Fault BindError) (Host × List Value)
  | append position suffix =>
    (frameAtType .text frame position).map fun s =>
      (h, frame.set position (.text (s ++ suffix)))
  | add position n =>
    (frameAtType (.int .i64) frame position).map fun m =>
      (h, frame.set position (.ofCarrier (.int .i64) (m + n)))
  | set position value =>
    (frameAt frame position).map fun _ => (h, frame.set position value)
  | swap first second =>
    match frameAt frame first with
    | .error fault => .error fault
    | .ok a => (frameAt frame second).map fun b => (h, (frame.set first b).set second a)
  | setText text => .ok ({ h with text }, frame)
  | setNum num => .ok ({ h with num }, frame)
  | exchange position =>
    (frameAtType .text frame position).map fun text =>
      ({ h with text }, frame.set position (.text h.text))
  | fail expected got => .error (.error (.typeMismatch expected got))

theorem Action.length_perform {h h' : Host} {frame frame' : List Value} {a : Action}
    (done : a.perform h frame = .ok (h', frame')) : frame'.length = frame.length := by
  cases a with
  | append i s =>
    cases hs : frameAtType .text frame i <;> simp [perform, hs, Except.map] at done
    simp [← done.2]
  | add i n =>
    cases hs : frameAtType (.int .i64) frame i <;> simp [perform, hs, Except.map] at done
    simp [← done.2]
  | set i v =>
    cases hs : frameAt frame i <;> simp [perform, hs, Except.map] at done
    simp [← done.2]
  | swap i j =>
    cases hi : frameAt frame i <;> cases hj : frameAt frame j <;>
      simp [perform, hi, hj, Except.map] at done
    simp [← done.2]
  | setText s => simp only [perform, Except.ok.injEq, Prod.mk.injEq] at done; rw [← done.2]
  | setNum n => simp only [perform, Except.ok.injEq, Prod.mk.injEq] at done; rw [← done.2]
  | exchange i =>
    cases hs : frameAtType .text frame i <;> simp [perform, hs, Except.map] at done
    simp [← done.2]
  | fail e g => simp [perform] at done

/-- Perform actions in order; the first that fails ends the run, and what was done before stays. -/
def performAll : List Action → Host → List Value → Host × List Value × Except (Fault BindError) Unit
  | [], h, frame => (h, frame, .ok ())
  | a :: actions, h, frame =>
    match a.perform h frame with
    | .error fault => (h, frame, .error fault)
    | .ok (h, frame) => performAll actions h frame

theorem length_performAll (actions : List Action) (h : Host) (frame : List Value) :
    (performAll actions h frame).2.1.length = frame.length := by
  induction actions generalizing h frame with
  | nil => rfl
  | cons a actions ih =>
    cases done : a.perform h frame with
    | error fault => simp [performAll, done]
    | ok state => simp [performAll, done, ih, Action.length_perform done]

/-- What a script returns. -/
inductive Returned where
  | value (v : Value)
  /-- What is in the frame at this position in the end. -/
  | argument (position : Nat)

/-- A raw method body as data. -/
structure Script where
  formals : List Formal
  actions : List Action
  result : TypeTag
  returned : Returned

namespace Script

/-- The result at the declared type; a script without a result accepts any value for it. -/
def take : (T : TypeTag) → Value → Except BindError T.Carrier
  | .unit, _ => .ok ()
  | T, v => v.takeValue T

/-- The result, from the frame that the actions leave behind. -/
def outcome (s : Script) (frame : List Value) : Except (Fault BindError) s.result.Carrier :=
  let v : Except (Fault BindError) Value := match s.returned with
    | .value v => .ok v
    | .argument position => frameAt frame position
  match v with
  | .error fault => .error fault
  | .ok v => (take s.result v).mapError .error

/-- Run the script.  The call is counted first. -/
def run (s : Script) (fields : Fields Value) (frame : Frame) :
    FrameReply BindError (Fields Value) s.result.Carrier :=
  let (h, values, done) := performAll s.actions (Host.ofFields fields).called frame.values
  let outcome := match done with
    | .error fault => .error fault
    | .ok () => s.outcome values
  ⟨⟨h.toFields, outcome⟩, values⟩

/-- The method of a sample type that runs the script. -/
def method (s : Script) (path name : String) (names : List String) : Method (hostType path) where
  name := name
  visibility := .exposed
  names := names
  result := s.result
  body := .raw s.formals s.run fun _ _ => length_performAll _ _ _

end Script

end LateBinding
