import LateBinding.Call
import LateBinding.Binding
import LateBinding.Memory

/-!
# Properties

A property may be of the type of all values, and then it matters whether a value is handed on or
boxed anew.  So the ways to read and to write are those of a property whose data hold handles of any
kind, on a memory; the ones on plain values are a case of them.

* `Property declaring` — a property of type `declaring`, with a read accessor, a write accessor, or
  both;
* `Property.readWidened?`, `Property.readErased?` — reading at two levels of typing: receiver typed,
  or any receiver; the value is boxed.  `Property.writeWidened?`, `Property.writeErased?` — writing;
* `Property.readTyped?`, `Property.readEntry?`, `Property.writeTyped?`, `Property.writeWidenedAt?` —
  the entry points for the types asked for;
* `Property.getOn`, `Property.setOn` — reflective access, with `Property.get` and `Property.set` on
  plain values.
-/

namespace LateBinding

/-- A property of type `declaring`. -/
structure Property (declaring : TypeTag) (ν : Type := Value) where
  name : String
  visibility : Visibility
  type : TypeTag
  /-- The value of an instance. -/
  read? : Option (declaring.Holding ν → type.Holding ν)
  /-- The instance with another value. -/
  write? : Option (declaring.Holding ν → Handed (type.Holding ν) → declaring.Holding ν)
  /-- A property is written only at a type that values can be read at. -/
  readable : write?.isSome → type.readable
  /-- A leaf datum is a copy whatever handle it comes by. -/
  unseen : ∀ write l, write? = some write → type = .leaf l →
    ∀ s x, write s ⟨x, true⟩ = write s ⟨x, false⟩

namespace Property

variable {declaring : TypeTag} {ν : Type} (p : Property declaring ν)

def access : String :=
  match p.read?.isSome, p.write?.isSome with
  | true, true => "get; set"
  | true, false => "get"
  | false, true => "set"
  | false, false => ""

def qualifiedName : String := s!"{declaring.name}::{p.name}"

def render : String :=
  s!"{p.qualifiedName}: {p.type.name} " ++ "\x7b " ++ p.access ++ " \x7d"

def shown : String := s!"PropertyInfo({p.render})"

/-! ### Reading -/

/-- Reading with receiver `T` and value type `V`. -/
def readTyped? (T V : TypeTag) : Option (T.Holding ν → V.Holding ν) :=
  if h : declaring = T ∧ p.type = V then h.1 ▸ h.2 ▸ p.read? else none

section Memory

variable {μ : Type} (m : Memory μ ν)

/-- Receiver typed, value boxed. -/
def readWidened? : Option (declaring.Holding ν → μ → ν × μ) :=
  p.read?.map fun read s u => m.ofHolding u p.type (read s)

/-- Any receiver, value boxed. -/
def readErased? : Option (InstanceOn ν → μ → Except BindError ν × μ) :=
  (p.readWidened? m).map fun read i u =>
    if h : i.1 = declaring then
      let (v, u) := read (h ▸ i.2) u
      (.ok v, u)
    else (.error (i.mismatch declaring), u)

/-- Reading with receiver `T` and the value boxed. -/
def readWidenedAt? (T : TypeTag) : Option (T.Holding ν → μ → ν × μ) :=
  if h : declaring = T then h ▸ p.readWidened? m else none

/-- Reading for receiver `T` and value type `V`: the typed way, or boxed when `V` is the type of all
values. -/
def readEntry? (T V : TypeTag) : Option (T.Holding ν → μ → V.Holding ν × μ) :=
  match p.readTyped? T V with
  | some read => some fun s u => (read s, u)
  | none => if h : V = .any then h ▸ p.readWidenedAt? m T else none

end Memory

/-! ### Writing -/

/-- Writing with receiver `T` and value type `V`. -/
def writeTyped? (T V : TypeTag) :
    Option (T.Holding ν → Handed (V.Holding ν) → T.Holding ν) :=
  if h : declaring = T ∧ p.type = V then h.1 ▸ h.2 ▸ p.write? else none

section Memory

variable {μ : Type} (m : Memory μ ν)

/-- Receiver typed, value boxed. -/
def writeWidened? :
    Option (declaring.Holding ν → Handed ν → μ → Reply BindError (declaring.Holding ν) Unit) :=
  p.write?.map fun write s v u =>
    match m.takeValue u p.type v.datum with
    | .error e => .refused s e
    | .ok x => ⟨write s ⟨x, v.sole⟩, .ok ()⟩

/-- Any receiver, value boxed. -/
def writeErased? : Option (InstanceOn ν → Handed ν → μ → Reply BindError (InstanceOn ν) Unit) :=
  (p.writeWidened? m).map fun write i v u =>
    if h : i.1 = declaring then (write (h ▸ i.2) v u).mapReceiver (Sigma.mk declaring)
    else .refused i (i.mismatch declaring)

/-- Writing with receiver `T` and the value boxed. -/
def writeWidenedAt? (T : TypeTag) :
    Option (T.Holding ν → Handed ν → μ → Reply BindError (T.Holding ν) Unit) :=
  if h : declaring = T then h ▸ p.writeWidened? m else none

end Memory

/-! ### Reflective access -/

def missing (accessor : Accessor) : BindError := .missingAccessor p.qualifiedName accessor

section Memory

variable {μ : Type} (m : Memory μ ν)

/-- Read reflectively. -/
def getOn (i : InstanceOn ν) (u : μ) : Except BindError ν × μ :=
  match p.readErased? m with
  | none => (.error (p.missing .get), u)
  | some read => read i u

/-- Write reflectively.  The value is converted first, and is kept until the call is over: whoever
else has a handle on it or not, a datum that serves as it is comes by one of two. -/
def setOn (i : InstanceOn ν) (v : Handed ν) (u : μ) : Reply BindError (InstanceOn ν) Unit × μ :=
  match p.writeErased? m with
  | none => (.refused i (p.missing .set), u)
  | some write =>
    match m.coerce p.type v.datum u with
    | none => (.refused i (m.mismatch u p.type v.datum), u)
    | some (v, u) => (write i v u, u)

end Memory

end Property

/-- Read reflectively, plain values. -/
def Property.get {declaring : TypeTag} (p : Property declaring) (i : Instance) :
    Except BindError Value := (p.getOn .plain i ()).1

/-- Write reflectively, plain values. -/
def Property.set {declaring : TypeTag} (p : Property declaring) (i : Instance) (v : Handed Value) :
    Reply BindError Instance Unit := (p.setOn .plain i v ()).1

end LateBinding
