import LateBinding.Plan.ArgExpr

/-!
# Call plans

A plan records every decision about the calls of one member: how the receiver is reached, how each
argument is read, and what happens to the result.

* `Tier`, `Variant`, `ReceiverAccess`, `ResultHandling` — the decisions;
* `Plan`, `Plan.writeBacks`, `Plan.render` — the plan, the number of positions it writes back, and
  its printed form;
* `Member.plan` — the plan for a receiver type and a result type asked for, or the reason why there
  is none.
-/

namespace LateBinding

/-- How much of a call is typed. -/
inductive Tier where
  | untyped
  /-- The receiver is of the declaring type, the result is untyped. -/
  | instanceTyped
  | typed
  deriving DecidableEq, Repr

def Tier.name : Tier → String
  | .untyped => "untyped"
  | .instanceTyped => "instance-typed"
  | .typed => "typed"

/-- What happens to parameters passed by reference. -/
inductive Variant where
  /-- Arguments are only read. -/
  | byValue
  /-- Parameters passed by reference are written back. -/
  | byRef
  deriving DecidableEq, Repr

def Variant.name : Variant → String
  | .byValue => "by-value"
  | .byRef => "by-ref"

/-- How the receiver reaches the member. -/
inductive ReceiverAccess where
  /-- There is no receiver. -/
  | absent
  /-- Any instance is taken, and checked at each call. -/
  | downcast (target : TypeTag)
  | direct (type : TypeTag)
  deriving DecidableEq, Repr

def ReceiverAccess.render : ReceiverAccess → String
  | .absent => "none"
  | .downcast target => s!"downcast Object -> {target.name}"
  | .direct type => s!"direct {type.name}"

/-- What happens to the result. -/
inductive ResultHandling where
  /-- Returned as it is. -/
  | direct (type : TypeTag)
  /-- Boxed. -/
  | widen (source : TypeTag)
  /-- There is none; the caller gets null. -/
  | yieldNull
  /-- There is none; the caller gets the unit datum. -/
  | yieldUnit
  deriving DecidableEq, Repr

def ResultHandling.render : ResultHandling → String
  | .direct type => s!"direct {type.name}"
  | .widen source => s!"widen {source.name} -> Value"
  | .yieldNull => "discard, yield null"
  | .yieldUnit => "discard, yield ()"

/-- The decisions about the calls of one member. -/
structure Plan where
  member : String
  kind : MemberKind
  tier : Tier
  variant : Variant
  receiver : ReceiverAccess
  /-- One expression for each parameter, in order. -/
  arguments : List ArgExpr
  result : ResultHandling
  deriving DecidableEq, Repr

namespace Plan

/-- Number of container positions written back after a call. -/
def writeBacks (p : Plan) : Nat := p.arguments.countP ArgExpr.writesBack

def argumentLine (i : Nat) (e : ArgExpr) : String := s!"  arg {i}: {e.render}\n"

/-- Printed form, without a line end after the last line. -/
def render (p : Plan) : String :=
  s!"{p.kind.name} {p.member} [{p.tier.name}, {p.variant.name}] " ++ "\x7b\n" ++
    s!"  instance: {p.receiver.render}\n" ++
    String.join (p.arguments.mapIdx argumentLine) ++
    s!"  return: {p.result.render}\n" ++ "\x7d"

end Plan

namespace Member

variable {declaring : TypeTag} {ν : Type}

/-- The accessor, if it has to exist for the member to be called. -/
def checkAccessor : Member declaring ν → Except Refusal Unit
  | getter p => if p.read?.isSome then .ok () else .error (.noAccessor p.render .get)
  | setter p => if p.write?.isSome then .ok () else .error (.noAccessor p.render .set)
  | constructor _ | method _ => .ok ()

/-- How a receiver asked for as type `I` is reached; `object` asks for any receiver. -/
def receiverAccess (I : TypeTag) (member : Member declaring ν) : Except Refusal ReceiverAccess :=
  if member.hasInstance then
    if I = .object then .ok (.downcast declaring)
    else if I = declaring then .ok (.direct declaring)
    else .error (.wrongReceiver member.render declaring.name I.name)
  else .ok .absent

/-- How a result asked for as type `R` is obtained. -/
def resultHandling (R : TypeTag) (member : Member declaring ν) : Except Refusal ResultHandling :=
  match member.returns with
  | none =>
    if R = .any then .ok .yieldNull
    else if R = .unit then .ok .yieldUnit
    else .error (.noResult member.render R.name)
  | some T =>
    if T = R then .ok (.direct T)
    else if R = .any then .ok (.widen T)
    else .error (.wrongResult member.render T.name R.name)

/-- How a value given as type `V` becomes one of the declared type. -/
def assignedValue (V declared : TypeTag) (member : Member declaring ν) : Except Refusal ArgExpr :=
  if V = .any then .ok (.converted .assigned declared)
  else if V = declared then .ok .assigned
  else .error (.wrongAssigned member.render declared.name V.name)

/-- The tier of a request for receiver `I` and result `R`. -/
def tier (I R : TypeTag) (member : Member declaring ν) : Tier :=
  if R = .any then
    if member.hasInstance ∧ I ≠ .object then .instanceTyped else .untyped
  else .typed

/-- The argument expressions and the result handling; `R` is the assigned type of a setter. -/
def exchange (R : TypeTag) (variant : Variant) :
    Member declaring ν → Except Refusal (List ArgExpr × ResultHandling)
  | setter p =>
    match assignedValue R p.type (setter p) with
    | .error refusal => .error refusal
    | .ok value => .ok ([value], .yieldUnit)
  | member =>
    let arguments :=
      match variant with
      | .byValue => ArgExpr.byValue member .arguments
      | .byRef => ArgExpr.byRef member .writableArguments
    match resultHandling R member with
    | .error refusal => .error refusal
    | .ok result => .ok (arguments, result)

/-- The plan for calls with receiver `I` and result `R`.  `I` is `object` or the declaring type, `R`
the type of all values, the declared result type, or `unit` for a member without a result; of a
setter `R` is the type of the assigned value. -/
def plan (I R : TypeTag) (variant : Variant) (member : Member declaring ν) : Except Refusal Plan :=
  match member.checkAccessor with
  | .error refusal => .error refusal
  | .ok () =>
    match member.receiverAccess I with
    | .error refusal => .error refusal
    | .ok receiver =>
      match member.exchange R variant with
      | .error refusal => .error refusal
      | .ok (arguments, result) =>
        .ok { member := member.render, kind := member.kind, tier := member.tier I R,
              variant, receiver, arguments, result }

end Member

end LateBinding
