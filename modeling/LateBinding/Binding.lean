/-!
# Binding rules

Which members a lookup may bind to, and how it compares names.

* `Visibility` — whether a member is part of the public face of its type;
* `BindingRules` — a set of rules, with `BindingRules.union` and `BindingRules.bits`;
* `BindingRules.admits` — whether a member of a visibility may be bound to.  Every member belongs to
  instances, so nothing binds unless instance members are asked for;
* `BindingRules.nameMatches` — equality of names, of the letters A to Z regardless of case if so
  ruled.
-/

namespace LateBinding

/-- Whether a member is part of the public face of its type. -/
inductive Visibility where
  | exposed
  | hidden
  deriving DecidableEq, Repr

/-- What a lookup may bind to. -/
structure BindingRules where
  exposed : Bool := false
  hidden : Bool := false
  instances : Bool := false
  /-- Compare names without regard to case. -/
  ignoreCase : Bool := false
  deriving DecidableEq, Repr

namespace BindingRules

def none : BindingRules := {}

/-- Exposed instance members, names compared exactly. -/
def standard : BindingRules := { exposed := true, instances := true }

/-- Instance members of any visibility, names compared exactly. -/
def everything : BindingRules := { exposed := true, hidden := true, instances := true }

def union (r r' : BindingRules) : BindingRules where
  exposed := r.exposed || r'.exposed
  hidden := r.hidden || r'.hidden
  instances := r.instances || r'.instances
  ignoreCase := r.ignoreCase || r'.ignoreCase

def named? : String → Option BindingRules
  | "PUBLIC" => some { exposed := true }
  | "NON_PUBLIC" => some { hidden := true }
  | "INSTANCE" => some { instances := true }
  | "IGNORE_CASE" => some { ignoreCase := true }
  | "DEFAULT" => some standard
  | _ => Option.none

def names (r : BindingRules) : List String :=
  (if r.exposed then ["PUBLIC"] else []) ++ (if r.hidden then ["NON_PUBLIC"] else []) ++
    (if r.instances then ["INSTANCE"] else []) ++ (if r.ignoreCase then ["IGNORE_CASE"] else [])

def shown (r : BindingRules) : String :=
  if r.names.isEmpty then "BindingFlags(0x0)"
  else "BindingFlags(" ++ " | ".intercalate r.names ++ ")"

/-- The set as a number, one bit for each rule. -/
def bits (r : BindingRules) : Nat :=
  r.exposed.toNat + 2 * r.hidden.toNat + 4 * r.instances.toNat + 8 * r.ignoreCase.toNat

/-- Whether a member of the visibility may be bound to. -/
def admits (r : BindingRules) (visibility : Visibility) : Bool :=
  r.instances &&
    match visibility with
    | .exposed => r.exposed
    | .hidden => r.hidden

/-- The letters A to Z in lower case, all else as it is. -/
def fold (name : String) : List Char := name.toList.map Char.toLower

/-- Whether a member's name is the requested one. -/
def nameMatches (r : BindingRules) (member requested : String) : Bool :=
  if r.ignoreCase then fold member = fold requested else member = requested

end BindingRules

end LateBinding
