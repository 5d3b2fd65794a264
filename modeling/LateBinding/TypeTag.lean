import LateBinding.Text.ShortName
import LateBinding.Leaf

/-!
# Type tags

A `TypeTag` is the run-time identity of a type.  Two tags are equal exactly when they stand for the
same type; records are told apart by their full path, although only the short name is printed.
-/

namespace LateBinding

/-- Run-time identity of a type. -/
inductive TypeTag where
  /-- Any value at all, null included. -/
  | any
  /-- What a member without a result returns. -/
  | unit
  /-- An instance of unknown type, as a receiver. -/
  | object
  | leaf (kind : Leaf)
  /-- A value or nothing, as one datum. -/
  | optional
  /-- A record type of the host program. -/
  | record (path : String)
  deriving DecidableEq, Repr

namespace TypeTag

def name : TypeTag → String
  | .any => "Value"
  | .unit => "()"
  | .object => "dyn Object"
  | .leaf l => l.name
  | .optional => "Option<Value>"
  | .record path => shortName path

abbrev text : TypeTag := .leaf .text

abbrev literal : TypeTag := .leaf .literal

abbrev bool : TypeTag := .leaf .bool

abbrev char : TypeTag := .leaf .char

abbrev int (k : IntKind) : TypeTag := .leaf (.int k)

abbrev single : TypeTag := .leaf .single

abbrev double : TypeTag := .leaf .double

/-- Whether arguments and assigned values can be read as this type. -/
def readable : TypeTag → Bool
  | .unit | .object | .optional => false
  | .leaf .texts | .leaf (.int .isize) | .leaf (.int .u128) => false
  | .any | .leaf _ | .record _ => true

end TypeTag

end LateBinding
