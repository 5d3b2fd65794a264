/-!
# Failures

What can go wrong, as causes; the wording is in one place for each type.

* `BindError` — failures of member lookup and of reflective calls;
* `Refusal` — why a member cannot be compiled, or an argument expression not be lowered;
* `DelegateError` — failures of compiling and calling delegates, with the embedding
  `DelegateError.ofBind` of the former;
* `Fault` — an error, a read or write past the end of an argument container, or a body that stops
  half-way.
-/

namespace LateBinding

/-- The two accessors of a property. -/
inductive Accessor where
  | get
  | set
  deriving DecidableEq, Repr

def Accessor.name : Accessor → String
  | .get => "get"
  | .set => "set"

/-- Failures of lookup and of reflective calls.  Types and members are given by their names. -/
inductive BindError where
  /-- A value or an instance is not of the required type. -/
  | typeMismatch (expected got : String)
  /-- A reflective call with a wrong number of arguments. -/
  | argumentCount (member : String) (expected got : Nat)
  | memberNotFound (typeName member : String)
  | ambiguousMatch (typeName member : String) (candidates : Nat)
  | missingAccessor (property : String) (accessor : Accessor)
  deriving DecidableEq, Repr

def BindError.message : BindError → String
  | typeMismatch expected got => s!"Type mismatch: expected {expected}, got {got}"
  | argumentCount member expected got =>
    s!"Argument count mismatch for {member}: expected {expected}, got {got}"
  | memberNotFound typeName member => s!"Member not found: {typeName}::{member}"
  | ambiguousMatch typeName member candidates =>
    s!"Ambiguous match for {typeName}::{member}: {candidates} candidates"
  | missingAccessor property accessor => s!"Property {property} has no {accessor.name} accessor"

/-- Why a lookup did not end in one member. -/
inductive LookupFailure where
  | noMatch
  | ambiguous (candidates : Nat)
  deriving DecidableEq, Repr

def LookupFailure.message : LookupFailure → String
  | noMatch => "no match"
  | ambiguous candidates => s!"ambiguous, {candidates} candidates"

/-- Why a member cannot be compiled as asked for.  Members, expressions and types are given by
their printed forms. -/
inductive Refusal where
  /-- No descriptor of the given kind was supplied. -/
  | noDescriptor (kind : String)
  /-- The property, printed with its signature, lacks the accessor. -/
  | noAccessor (property : String) (accessor : Accessor)
  /-- A reflective access met a property without the accessor. -/
  | accessFailed (property : String) (accessor : Accessor)
  /-- The receiver asked for is not the declaring type. -/
  | wrongReceiver (member declaring requested : String)
  /-- A result is asked for from a member without one. -/
  | noResult (member requested : String)
  /-- The result asked for is not the declared one. -/
  | wrongResult (member declared requested : String)
  /-- The assigned type asked for is not the property type. -/
  | wrongAssigned (member declared requested : String)
  /-- The member has no entry point for the requested types. -/
  | noEntry (member tier : String)
  | noArgument (expression : String)
  deriving DecidableEq, Repr

def Refusal.message : Refusal → String
  | noDescriptor kind => s!"no {kind} descriptor supplied"
  | noAccessor property accessor => s!"{property} has no {accessor.name} accessor"
  | accessFailed property accessor => (BindError.missingAccessor property accessor).message
  | wrongReceiver member declaring requested =>
    s!"{member} is declared on {declaring}, not {requested}"
  | noResult member requested => s!"{member} returns nothing, cannot produce {requested}"
  | wrongResult member declared requested => s!"{member} returns {declared}, not {requested}"
  | wrongAssigned member declared requested => s!"{member} takes {declared}, not {requested}"
  | noEntry member tier => s!"{member} has no {tier} entry point for the requested types"
  | noArgument expression => "`" ++ expression ++ "` does not read an argument"

/-- Failures of resolving, compiling and calling delegates. -/
inductive DelegateError where
  | memberNotFound (typeName member : String) (failure : LookupFailure)
  | invalidMember (refusal : Refusal)
  | typeMismatch (expected got : String)
  deriving DecidableEq, Repr

namespace DelegateError

def message : DelegateError → String
  | memberNotFound typeName member failure =>
    s!"Member not found: {typeName}::{member} ({failure.message})"
  | invalidMember refusal => s!"Invalid member: {refusal.message}"
  | typeMismatch expected got => s!"Type mismatch: expected {expected}, got {got}"

/-- A failure of lookup or of a reflective call, seen from a delegate.  A wrong number of arguments
appears as a mismatch between the two numbers. -/
def ofBind : BindError → DelegateError
  | .typeMismatch expected got => typeMismatch expected got
  | .argumentCount member expected got =>
    typeMismatch s!"{expected} arguments for {member}" (toString got)
  | .memberNotFound typeName member => memberNotFound typeName member .noMatch
  | .ambiguousMatch typeName member candidates =>
    memberNotFound typeName member (.ambiguous candidates)
  | .missingAccessor property accessor => invalidMember (.accessFailed property accessor)

end DelegateError

/-- How a call ends when it does not end well. -/
inductive Fault (ε : Type) where
  | error (e : ε)
  /-- Position `index` of a container of `length` values was asked for. -/
  | outOfBounds (length index : Nat)
  /-- A body stopped half-way, with a text of its own. -/
  | aborted (text : String)
  deriving DecidableEq, Repr

namespace Fault

variable {ε ε' : Type}

/-- The same fault with its error carried over by `f`. -/
def map (f : ε → ε') : Fault ε → Fault ε'
  | error e => error (f e)
  | outOfBounds length index => outOfBounds length index
  | aborted text => aborted text

/-- The text of a read or write past the end. -/
def outOfBoundsMessage (length index : Nat) : String :=
  s!"index out of bounds: the len is {length} but the index is {index}"

end Fault

end LateBinding
