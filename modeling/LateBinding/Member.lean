import LateBinding.Member.Constructor
import LateBinding.Member.Method
import LateBinding.Member.Property

/-!
# Members

* `Member declaring` — any member of a type: a constructor, a method, or an accessor of a property,
  whose data may hold handles;
* `MemberKind` — its kind, with the printed name;
* `Member.formals`, `Member.returns` — its signature: a setter takes the assigned value and returns
  nothing.
-/

namespace LateBinding

/-- The kinds of members. -/
inductive MemberKind where
  | constructor
  | method
  | getter
  | setter
  deriving DecidableEq, Repr

def MemberKind.name : MemberKind → String
  | .constructor => "constructor"
  | .method => "method"
  | .getter => "property getter"
  | .setter => "property setter"

/-- A member of a type. -/
inductive Member (declaring : TypeTag) (ν : Type := Value) where
  | constructor (c : Constructor declaring)
  | method (m : Method declaring)
  | getter (p : Property declaring ν)
  | setter (p : Property declaring ν)

namespace Member

variable {declaring : TypeTag} {ν : Type}

def kind : Member declaring ν → MemberKind
  | constructor _ => .constructor
  | method _ => .method
  | getter _ => .getter
  | setter _ => .setter

/-- Name of the member; constructors have one name in common. -/
def name : Member declaring ν → String
  | constructor _ => "new"
  | method m => m.name
  | getter p | setter p => p.name

/-- Declared parameter types, in the order of a call. -/
def formals : Member declaring ν → List Formal
  | constructor c => c.formals
  | method m => m.formals
  | getter _ => []
  | setter p => [.byValue p.type]

/-- Result type, if there is a result. -/
def returns : Member declaring ν → Option TypeTag
  | constructor _ => some declaring
  | method m => m.returns
  | getter p => some p.type
  | setter _ => none

def hasInstance : Member declaring ν → Bool
  | constructor _ => false
  | method _ | getter _ | setter _ => true

def render : Member declaring ν → String
  | constructor c => c.render
  | method m => m.render
  | getter p => s!"get {p.qualifiedName}"
  | setter p => s!"set {p.qualifiedName}"

end Member

end LateBinding
