import LateBinding.TypeTag

/-!
# Signatures

Formal parameters, as they are declared and as they are printed.

* `Formal` — the declared type of a parameter, by value or by reference;
* `Parameter` — a formal parameter with its name and position;
* `Parameter.listOf` — the parameters of a member, where unnamed ones are named by their positions;
* `Signature.render` — the printed parameter list.
-/

namespace LateBinding

/-- The declared type of a formal parameter. -/
structure Formal where
  /-- The type of the argument, or of what is referred to. -/
  element : TypeTag
  /-- Whether the member may replace the argument. -/
  byRef : Bool
  deriving DecidableEq, Repr

namespace Formal

def byValue (T : TypeTag) : Formal := ⟨T, false⟩

def reference (T : TypeTag) : Formal := ⟨T, true⟩

def render (p : Formal) : String :=
  if p.byRef then "&mut " ++ p.element.name else p.element.name

def shown (p : Formal) : String := s!"ParamType({p.render})"

end Formal

/-- A formal parameter. -/
structure Parameter where
  name : String
  formal : Formal
  position : Nat
  deriving DecidableEq, Repr

namespace Parameter

def render (p : Parameter) : String := s!"{p.name}: {p.formal.render}"

/-- The parameters of the given types from position `i` on, with `names` for the first of them. -/
def listFrom (i : Nat) : (names : List String) → List Formal → List Parameter
  | _, [] => []
  | [], p :: ps => ⟨s!"arg{i}", p, i⟩ :: listFrom (i + 1) [] ps
  | n :: ns, p :: ps => ⟨n, p, i⟩ :: listFrom (i + 1) ns ps

/-- The parameters of the given types; names in excess are dropped, missing ones made up. -/
def listOf (names : List String) (formals : List Formal) : List Parameter :=
  listFrom 0 names formals

end Parameter

def Signature.render (parameters : List Parameter) : String :=
  "(" ++ ", ".intercalate (parameters.map Parameter.render) ++ ")"

end LateBinding
