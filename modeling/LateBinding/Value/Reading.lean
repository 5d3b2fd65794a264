import LateBinding.Value

/-!
# Reading values at a type

Three ways to take a datum of a known type out of a value.  They reach the datum differently, and
members use each of them: a call frame is read by `fromValue`, an assigned value by `takeValue`, an
argument in the caller's container by `fromExact?`.

* `Value.extract`, `Value.intoInner` — copy the boxed datum out, or give the value up for it;
  `Content.taken` — the latter, on the boxed datum;
* `Value.fromValue`, `Value.takeValue`, `Value.fromExact?` — the same, where reading at the type of
  all values always succeeds with the value itself.
-/

namespace LateBinding

/-- The datum of type `T` that a value holds, nothing for null, when the value is given up for
it. -/
def Content.taken {ν : Type} (T : TypeTag) : Option (Content ν) → Except BindError (T.Holding ν)
  | none => .error (.typeMismatch T.name "null")
  | some content =>
    match content.as? T with
    | some datum => .ok datum
    | none => .error (.typeMismatch T.name content.tag.name)

namespace Value

/-- The mismatch of the type asked for and the type of the value. -/
def mismatch (T : TypeTag) (v : Value) : BindError := .typeMismatch T.name v.typeName

/-- A copy of the boxed datum. -/
def extract (T : TypeTag) (v : Value) : Except BindError T.Carrier :=
  match v.downcast? T with
  | some datum => .ok datum
  | none => .error (v.mismatch T)

/-- The boxed datum, for which the value is given up. -/
def intoInner (T : TypeTag) (v : Value) : Except BindError T.Carrier := Content.taken T v.content?

/-- Read an argument of a call frame. -/
def fromValue : (T : TypeTag) → Value → Except BindError T.Carrier
  | .any, v => .ok v
  | T, v => v.extract T

/-- Read an assigned value. -/
def takeValue : (T : TypeTag) → Value → Except BindError T.Carrier
  | .any, v => .ok v
  | T, v => v.intoInner T

/-- Read an argument that has to be of its declared type already. -/
def fromExact? : (T : TypeTag) → Value → Option T.Carrier
  | .any, v => some v
  | T, v => v.downcast? T

end Value

end LateBinding
