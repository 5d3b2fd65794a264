import LateBinding.Member
import LateBinding.Text.Escaped

/-!
# Type definitions

A type definition lists the members of one type, in the order in which they were defined.

* `TypeDef` — the lists, with the type and the name it is registered under;
* `TypeDef.named`, `TypeDef.withConstructor` and its siblings — building a definition up;
* `TypeDef.members` — all that can be called: constructors, methods, then the accessors of each
  property.
-/

namespace LateBinding

/-- The members of one type. -/
structure TypeDef where
  type : TypeTag
  name : String
  constructors : List (Constructor type) := []
  methods : List (Method type) := []
  properties : List (Property type) := []

namespace TypeDef

/-- A type without members under a name of its own. -/
def named (type : TypeTag) (name : String) : TypeDef := { type, name }

/-- A type without members under its short name. -/
def new (type : TypeTag) : TypeDef := named type type.name

variable (t : TypeDef)

def withConstructor (c : Constructor t.type) : TypeDef :=
  { t with constructors := t.constructors ++ [c] }

def withMethod (m : Method t.type) : TypeDef :=
  { t with methods := t.methods ++ [m] }

def withProperty (p : Property t.type) : TypeDef :=
  { t with properties := t.properties ++ [p] }

def accessors {declaring : TypeTag} (p : Property declaring) : List (Member declaring) :=
  (if p.read?.isSome then [.getter p] else []) ++ (if p.write?.isSome then [.setter p] else [])

/-- Everything that can be called. -/
def members : List (Member t.type) :=
  t.constructors.map .constructor ++ t.methods.map .method ++ t.properties.flatMap accessors

def shown : String :=
  "TypeInfo \x7b name: " ++ quoted t.name ++
    s!", constructors: {t.constructors.length}, methods: {t.methods.length}" ++
    s!", properties: {t.properties.length}" ++ " \x7d"

end TypeDef

end LateBinding
