import LateBinding.TypeDef

/-!
# Registry

A registry keeps one definition for each registered type, and for each name the type it stands for.
Several types may share a name: it stands for the one registered last, and a type that gives a name
up leaves it to another one that bears it.

* `Registry` — the two tables.  The types stand in the order of their names, so that the heir of a
  name does not depend on the order of registration;
* `Registry.insert`, `Registry.releaseName` — the update of both tables;
* `Registry.register`, `Registry.getOrRegister` — registration;
* `Registry.get?`, `Registry.getByName?`, `Registry.typeNames`, `Registry.size` — what is
  registered.
-/

namespace LateBinding

/-- Registered types. -/
structure Registry where
  byType : List (TypeTag × TypeDef) := []
  byName : List (String × TypeTag) := []

namespace Registry

/-! ### Tables -/

section Table

variable {κ α : Type} [DecidableEq κ]

def lookup? (table : List (κ × α)) (key : κ) : Option α :=
  (table.find? (·.1 = key)).map (·.2)

/-- Replace the entry of a key, or add one at the end. -/
def update (key : κ) (entry : α) : List (κ × α) → List (κ × α)
  | [] => [(key, entry)]
  | (k, e) :: table =>
    if k = key then (key, entry) :: table else (k, e) :: update key entry table

/-- The table without a key. -/
def erase (table : List (κ × α)) (key : κ) : List (κ × α) := table.filter (·.1 ≠ key)

/-- Add an entry in front of the first key that does not come `before` its own. -/
def place (before : κ → κ → Bool) (key : κ) (entry : α) : List (κ × α) → List (κ × α)
  | [] => [(key, entry)]
  | (k, e) :: table =>
    if before k key then (k, e) :: place before key entry table else (key, entry) :: (k, e) :: table

/-- Let a key have this entry and no other, in its place by the order of the keys. -/
def enter (before : κ → κ → Bool) (key : κ) (entry : α) (table : List (κ × α)) : List (κ × α) :=
  place before key entry (erase table key)

end Table

/-- Whether a text is not after another one; texts are ordered by their code points. -/
def notAfter (a b : String) : Bool := a ≤ b

/-- The order of the types in the table. -/
def typeBefore (T U : TypeTag) : Bool := notAfter T.name U.name

variable (r : Registry)

def get? (T : TypeTag) : Option TypeDef := lookup? r.byType T

def getByName? (name : String) : Option TypeDef := (lookup? r.byName name).bind r.get?

/-- The other types that bear a name, in the order of the table. -/
def heirs (name : String) (former : TypeTag) : List TypeTag :=
  (r.byType.filter fun (T, t) => T ≠ former && t.name = name).map (·.1)

/-- Let `former` give a name up, if the name stands for it: another type of that name takes it over,
and without one the name is forgotten. -/
def releaseName (name : String) (former : TypeTag) : Registry :=
  if lookup? r.byName name = some former then
    match r.heirs name former with
    | heir :: _ => { r with byName := update name heir r.byName }
    | [] => { r with byName := erase r.byName name }
  else r

/-- Store a definition for type `T`.  Its name now stands for `T`; the name of an earlier
definition, if it was another one, is given up. -/
def insert (T : TypeTag) (t : TypeDef) : Registry :=
  let stored : Registry := { r with byType := enter typeBefore T t r.byType }
  let released :=
    match r.get? T with
    | some previous => if previous.name ≠ t.name then stored.releaseName previous.name T else stored
    | none => stored
  { released with byName := update t.name T released.byName }

/-! ### Registration -/

/-- Register a type, in place of an earlier definition of it. -/
def register (t : TypeDef) : Registry := r.insert t.type t

/-- The definition of type `T`.  When there is none, `build` makes it, and may use the registry
meanwhile; what it makes is dropped if `T` is registered by then. -/
def getOrRegister (T : TypeTag) (build : Registry → Registry × TypeDef) : Registry × TypeDef :=
  match r.get? T with
  | some t => (r, t)
  | none =>
    let (r, t) := build r
    match r.get? T with
    | some existing => (r, existing)
    | none => (r.insert T t, t)

/-! ### Contents -/

def typeNames : List String := (r.byName.map (·.1)).mergeSort notAfter

def size : Nat := r.byType.length

end Registry

end LateBinding
