import LateBinding.Value
import LateBinding.Signature

/-!
# Sample record types

Four record types of one shape, to define members on.

* `Host` — the state of an instance, with `Host.ofFields` and `Host.toFields`;
* `hostType` — the record types, told apart by their paths;
* `TypeTag.named?`, `Formal.named?` — types and parameter types by their printed names.
-/

namespace LateBinding

/-- State of an instance of a sample type. -/
structure Host where
  text : String := ""
  num : Word .i64 := .wrap .i64 0
  real : Double := .zero false
  /-- How often a method that may change the instance has run. -/
  calls : Word .u32 := .wrap .u32 0
  any : Value := .null

abbrev hostType (path : String) : TypeTag := .record path

def hostPaths : List String := ["Alpha", "Beta", "Gamma", "Delta"]

def field? (fields : Fields Value) (name : String) : Option (Field Value) :=
  (fields.find? (·.1 = name)).map (·.2)

def plainField? (fields : Fields Value) (l : Leaf) (name : String) : Option l.Content :=
  match field? fields name with
  | some (.plain l' datum) => if h : l' = l then some (h ▸ datum) else none
  | _ => none

def heldField? (fields : Fields Value) (name : String) : Option Value :=
  match field? fields name with
  | some (.held v) => some v
  | _ => none

namespace Host

/-- The state in the fields of an instance; fields that are missing have their initial contents. -/
def ofFields (fields : Fields Value) : Host where
  text := (plainField? fields .text "text").getD ""
  num := (plainField? fields (.int .i64) "num").getD (.wrap .i64 0)
  real := (plainField? fields .double "real").getD (.zero false)
  calls := (plainField? fields (.int .u32) "calls").getD (.wrap .u32 0)
  any := (heldField? fields "any").getD .null

def toFields (h : Host) : Fields Value :=
  [("text", .plain .text h.text), ("num", .plain (.int .i64) h.num),
   ("real", .plain .double h.real), ("calls", .plain (.int .u32) h.calls), ("any", .held h.any)]

theorem ofFields_toFields (h : Host) : ofFields h.toFields = h := rfl

/-- The state after one more call. -/
def called (h : Host) : Host := { h with calls := h.calls + .wrap .u32 1 }

end Host

/-- All types that have a name of their own here. -/
def namedTypes : List TypeTag :=
  [.any, .unit, .object, .text, .literal, .bool, .char, .single, .double, .leaf .texts,
    .optional] ++ IntKind.all.map .int ++ hostPaths.map hostType

/-- The type with this printed name. -/
def TypeTag.named? (name : String) : Option TypeTag := namedTypes.find? (·.name = name)

def Formal.named? (form : String) : Option Formal :=
  match form.toList with
  | '&' :: 'm' :: 'u' :: 't' :: ' ' :: element =>
    (TypeTag.named? (String.ofList element)).map .reference
  | _ => (TypeTag.named? form).map .byValue

end LateBinding
