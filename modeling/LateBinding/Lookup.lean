import LateBinding.TypeDef

/-!
# Member lookup

A lookup filters a member list and wants exactly one member to remain.

* `TypeDef.single` — the one candidate, or the failure for none and for several;
* `MethodQuery`, `MethodQuery.selects` — a request for a method by name, binding rules and, if
  wanted, exact parameter types;
* `TypeDef.findMethod`, `TypeDef.findConstructor`, `TypeDef.findProperty` — lookup by name and
  signature;
* `accepts` — whether arguments of these run-time types convert to a parameter list;
* `TypeDef.resolveMethod`, `TypeDef.resolveConstructor` — lookup by run-time arguments;
* `TypeDef.invokeMethod`, `TypeDef.create` — such a lookup followed by a reflective call.

Messages use the name the type is registered under.
-/

namespace LateBinding

/-- A request for a method. -/
structure MethodQuery where
  name : String
  rules : BindingRules := .standard
  /-- The exact parameter types, where they matter. -/
  signature : Option (List Formal) := none
  deriving DecidableEq, Repr

namespace MethodQuery

/-- Whether the method has the requested name and may be bound to. -/
def reaches {declaring : TypeTag} (q : MethodQuery) (m : Method declaring) : Bool :=
  q.rules.nameMatches m.name q.name && q.rules.admits m.visibility

def selects {declaring : TypeTag} (q : MethodQuery) (m : Method declaring) : Bool :=
  q.reaches m &&
    match q.signature with
    | none => true
    | some signature => m.formals = signature

end MethodQuery

/-- Whether arguments with the given run-time types, nothing for null, convert to the parameters.
Null is accepted only where any value is. -/
def accepts : List Formal → List Value → Bool
  | [], [] => true
  | p :: ps, arg :: args =>
    (match arg.tag? with
      | some tag => p.element.accepts tag
      | none => p.element = .any) && accepts ps args
  | _, _ => false

namespace TypeDef

variable (t : TypeDef)

/-- The one candidate for `member`. -/
def single {α : Type} (member : String) : (candidates : List α) → Except BindError α
  | [] => .error (.memberNotFound t.name member)
  | [candidate] => .ok candidate
  | candidates => .error (.ambiguousMatch t.name member candidates.length)

/-! ### By name and signature -/

def methodCandidates (q : MethodQuery) : List (Method t.type) := t.methods.filter q.selects

def findMethod (q : MethodQuery) : Except BindError (Method t.type) :=
  t.single q.name (t.methodCandidates q)

/-- The constructor with exactly these parameter types. -/
def findConstructor (signature : List Formal) : Except BindError (Constructor t.type) :=
  t.single "new" (t.constructors.filter fun c => c.formals = signature)

/-- Whether a property has the requested name and may be bound to. -/
def reachesProperty (rules : BindingRules) (name : String) (p : Property t.type) : Bool :=
  rules.nameMatches p.name name && rules.admits p.visibility

def findProperty (name : String) (rules : BindingRules := .standard) :
    Except BindError (Property t.type) :=
  t.single name (t.properties.filter (t.reachesProperty rules name))

/-! ### By run-time arguments -/

/-- The exposed method of this name whose parameters accept the arguments. -/
def resolveMethod (name : String) (args : List Value) : Except BindError (Method t.type) :=
  t.single name (t.methods.filter fun m =>
    MethodQuery.reaches { name } m && accepts m.formals args)

/-- The constructor whose parameters accept the arguments. -/
def resolveConstructor (args : List Value) : Except BindError (Constructor t.type) :=
  t.single "new" (t.constructors.filter fun c => accepts c.formals args)

/-- Call a method by name, choosing the overload by the arguments. -/
def invokeMethod (name : String) (i : Instance) (args : List Value) :
    Reply BindError Instance Value :=
  match t.resolveMethod name args with
  | .error e => .refused i e
  | .ok m => m.invoke i args

/-- Create an instance, choosing the constructor by the arguments. -/
def create (args : List Value) : Except (Fault BindError) Value :=
  match t.resolveConstructor args with
  | .error e => .error (.error e)
  | .ok c => c.invoke args

end TypeDef

end LateBinding
