import LateBinding.TypeTag
import LateBinding.Failure

/-!
# Values

A value is null or a boxed datum of some type.  Boxed data are leaf data, optional values, and
records, whose fields hold leaf data directly or hold further values.

* `Content ν` — a boxed datum whose inner values are given as `ν`: values themselves here, handles
  in a store of shared data;
* `Value` — the values;
* `TypeTag.Holding`, `TypeTag.Carrier` — the data of a type, whose inner values are given as `ν`, or
  are values;
* `Value.ofCarrier` — boxing: the unit datum becomes null, and a value is not boxed again;
* `Value.downcast?` — the datum in a value, if it is of the type asked for;
* `InstanceOn`, `Instance` — a receiver: a datum together with its type.
-/

namespace LateBinding

/-- A field of a record. -/
inductive Field (ν : Type) where
  | plain (kind : Leaf) (datum : kind.Content)
  | held (value : ν)

abbrev Fields (ν : Type) := List (String × Field ν)

/-- A boxed datum. -/
inductive Content (ν : Type) where
  | leaf (kind : Leaf) (datum : kind.Content)
  | optional (value? : Option ν)
  | record (path : String) (fields : List (String × Field ν))

/-- A dynamically typed value. -/
inductive Value where
  | null
  | boxed (content : Content Value)

instance : Inhabited Value := ⟨.null⟩

/-- The data of a type with inner values given as `ν`.  No datum is of type `object`: it stands for
an instance of unknown type. -/
abbrev TypeTag.Holding (ν : Type) : TypeTag → Type
  | .any => ν
  | .unit => Unit
  | .object => Empty
  | .leaf l => l.Content
  | .optional => Option ν
  | .record _ => Fields ν

/-- The data of a type. -/
abbrev TypeTag.Carrier (T : TypeTag) : Type := T.Holding Value

/-- A receiver with inner values given as `ν`. -/
abbrev InstanceOn (ν : Type) := (T : TypeTag) × T.Holding ν

abbrev Instance := InstanceOn Value

/-! ### Type of a datum -/

namespace Content

variable {ν : Type}

def tag : Content ν → TypeTag
  | leaf l _ => .leaf l
  | optional _ => .optional
  | record path _ => .record path

/-- The datum as one of type `T`, if that is its type. -/
def as? : (T : TypeTag) → Content ν → Option (T.Holding ν)
  | .leaf l, .leaf l' datum => if h : l' = l then some (h ▸ datum) else none
  | .optional, .optional value? => some value?
  | .record path, .record path' fields => if path' = path then some fields else none
  | _, _ => none

end Content

namespace Value

/-- The boxed datum, if the value is not null. -/
def content? : Value → Option (Content Value)
  | null => none
  | boxed content => some content

/-- Whether the value is null. -/
def isNull : Value → Bool
  | null => true
  | boxed _ => false

/-- Run-time type of the boxed datum, nothing for null. -/
def tag? (v : Value) : Option TypeTag := v.content?.map Content.tag

/-- The name a type, or its absence, has in messages. -/
def nameOfTag? : Option TypeTag → String
  | some tag => tag.name
  | none => "null"

def typeName (v : Value) : String := nameOfTag? v.tag?

/-- Whether the boxed datum is of type `T`. -/
def is (T : TypeTag) (v : Value) : Bool := v.tag? = some T

/-- Box a datum.  A value stays as it is, and the unit datum becomes null. -/
def ofCarrier : (T : TypeTag) → T.Carrier → Value
  | .any, v => v
  | .unit, _ => null
  | .object, e => nomatch e
  | .leaf l, datum => boxed (.leaf l datum)
  | .optional, value? => boxed (.optional value?)
  | .record path, fields => boxed (.record path fields)

/-- The boxed datum, if it is of type `T`. -/
def downcast? (T : TypeTag) (v : Value) : Option T.Carrier :=
  v.content?.bind (Content.as? T)

def text (s : String) : Value := ofCarrier .text s

def toInstance : Value → Instance
  | null => ⟨.any, null⟩
  | boxed (.leaf l datum) => ⟨.leaf l, datum⟩
  | boxed (.optional value?) => ⟨.optional, value?⟩
  | boxed (.record path fields) => ⟨.record path, fields⟩

end Value

/-- The name of the type of what a value holds, nothing for null. -/
def Content.typeName {ν : Type} (content? : Option (Content ν)) : String :=
  Value.nameOfTag? (content?.map Content.tag)

def Instance.toValue (i : Instance) : Value := Value.ofCarrier i.1 i.2

end LateBinding
