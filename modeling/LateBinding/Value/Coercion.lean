import LateBinding.Value

/-!
# Coercion

Where a value is not of the declared type it may still be widened to it.

* `Retyped` — the outcome of a successful coercion: the value is kept as it is, shared with the
  caller, or a new datum is made;
* `retype` — the decision, on the boxed datum;
* `Value.coerce`, `Value.renewed` — the coerced value, and whether it is made anew;
* `TypeTag.accepts` — whether values of one type are accepted where another one is declared.

Everything converts to the type of all values, null to nothing else.
-/

namespace LateBinding

/-- A successful coercion. -/
inductive Retyped (ν : Type) where
  /-- The value itself serves. -/
  | kept
  /-- A new datum is made. -/
  | fresh (content : Content ν)

namespace Content

variable {ν : Type}

/-- The datum widened to type `T`, if its type widens to `T`. -/
def widen? (T : TypeTag) : Content ν → Option (Content ν)
  | leaf a datum =>
    match T with
    | .leaf b => (a.widening? b).map fun widening => leaf b (widening datum)
    | _ => none
  | _ => none

end Content

/-- Coerce what a value holds, nothing for null, to type `T`. -/
def retype {ν : Type} (T : TypeTag) (content? : Option (Content ν)) : Option (Retyped ν) :=
  if T = .any then some .kept
  else
    match content? with
    | none => none
    | some content =>
      if content.tag = T then some .kept else (content.widen? T).map .fresh

/-- Whether a new datum is made. -/
def Retyped.isFresh {ν : Type} : Retyped ν → Bool
  | kept => false
  | fresh _ => true

/-- The value a coercion yields from `v`. -/
def Retyped.on (v : Value) : Retyped Value → Value
  | kept => v
  | fresh content => .boxed content

namespace Value

/-- How `v` is coerced to type `T`. -/
def retyped? (T : TypeTag) (v : Value) : Option (Retyped Value) := retype T v.content?

/-- `v` coerced to type `T`. -/
def coerce (T : TypeTag) (v : Value) : Option Value := (v.retyped? T).map (·.on v)

/-- Whether `v` is coerced to type `T` by making a new datum. -/
def renewed (T : TypeTag) (v : Value) : Bool := (v.retyped? T).any Retyped.isFresh

end Value

namespace TypeTag

/-- Whether data of type `a` are widened to type `b`. -/
def widens : (a b : TypeTag) → Bool
  | .leaf a, .leaf b => a.widens b
  | _, _ => false

/-- Whether values of type `source` are accepted where `target` is declared. -/
def accepts (target source : TypeTag) : Bool :=
  target = .any || source = target || source.widens target

end TypeTag

end LateBinding
