import LateBinding.Member

/-!
# Argument expressions

How each argument of a call is read out of the caller's container and converted.

* `ArgExpr` — the expressions, with their printed form `ArgExpr.render`;
* `ArgExpr.slot?`, `ArgExpr.target?`, `ArgExpr.writesBack` — the container position an expression
  reads, the type it produces if it converts, and whether the position is written back;
* `ArgExpr.byValue`, `ArgExpr.byRef` — the expressions for a member, one for each parameter: a
  converted copy of each argument, or a view for the parameters passed by reference.

Arguments are bound by position only.  The value a setter assigns is not read from a container.
-/

namespace LateBinding

/-- How a value of a call is come by. -/
inductive ArgExpr where
  | receiver
  | arguments
  /-- The argument container, when it may be written to. -/
  | writableArguments
  /-- The value a setter assigns. -/
  | assigned
  /-- The value at a position of a container. -/
  | element (container : ArgExpr) (position : Nat)
  /-- A value converted to a type. -/
  | converted (operand : ArgExpr) (target : TypeTag)
  /-- A position viewed as a place of a type, for reading and writing. -/
  | referent (operand : ArgExpr) (type : TypeTag)
  deriving DecidableEq, Repr

namespace ArgExpr

def render : ArgExpr → String
  | receiver => "instance"
  | arguments | writableArguments => "args"
  | assigned => "value"
  | element container position => container.render ++ "[" ++ toString position ++ "]"
  | converted operand target => s!"convert({operand.render}, {target.name})"
  | referent operand type => s!"&mut {operand.render} as {type.name}"

/-- The container position the expression reads, if it reads one. -/
def slot? : ArgExpr → Option Nat
  | element _ position => some position
  | converted operand _ | referent operand _ => operand.slot?
  | receiver | arguments | writableArguments | assigned => none

/-- The type the expression produces, if it converts. -/
def target? : ArgExpr → Option TypeTag
  | converted _ target => some target
  | referent _ type => some type
  | receiver | arguments | writableArguments | assigned | element _ _ => none

/-- Whether the position is written back after the call. -/
def writesBack : ArgExpr → Bool
  | referent _ _ => true
  | _ => false

/-! ### The expressions of a member -/

/-- The parameters of a member whose arguments come from the container. -/
def containerFormals {declaring : TypeTag} {ν : Type} : Member declaring ν → List Formal
  | .setter _ => []
  | member => member.formals

/-- The argument at a position, converted to the parameter's type. -/
def ofFormal (container : ArgExpr) (p : Formal) (position : Nat) : ArgExpr :=
  converted (element container position) p.element

/-- The same, or a view of the position when the parameter is passed by reference. -/
def ofFormalByRef (container : ArgExpr) (p : Formal) (position : Nat) : ArgExpr :=
  if p.byRef then referent (element container position) p.element
  else converted (element container position) p.element

/-- The expressions of a call that leaves the container alone. -/
def byValue {declaring : TypeTag} {ν : Type} (member : Member declaring ν) (container : ArgExpr) :
    List ArgExpr :=
  (containerFormals member).mapIdx fun i p => ofFormal container p i

/-- The expressions of a call that writes parameters passed by reference back. -/
def byRef {declaring : TypeTag} {ν : Type} (member : Member declaring ν) (container : ArgExpr) :
    List ArgExpr :=
  (containerFormals member).mapIdx fun i p => ofFormalByRef container p i

end ArgExpr

end LateBinding
