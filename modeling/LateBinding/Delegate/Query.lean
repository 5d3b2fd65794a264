import LateBinding.Delegate.Compile
import LateBinding.Lookup

/-!
# Delegates by query

Lookup and compilation in one step.  A lookup that does not end in one member fails before anything
is compiled.

* `TypeDef.queryMethod` — the method a query selects;
* `TypeDef.methodDelegate` and its siblings — a delegate of the member that a query, a signature or
  a property name selects.
-/

namespace LateBinding

namespace TypeDef

variable (t : TypeDef)

/-- Compile what a lookup found. -/
def compileFound {α β : Type} (found : Except BindError α) (compile : α → Except Refusal β) :
    Except DelegateError β :=
  match found with
  | .error e => .error (.ofBind e)
  | .ok member => (compile member).mapError .invalidMember

def queryMethod (q : MethodQuery) : Except DelegateError (Method t.type) :=
  (t.findMethod q).mapError .ofBind

/-- A delegate for any receiver. -/
def methodDelegate (q : MethodQuery) : Except DelegateError (MethodDelegate Instance Value) :=
  compileFound (t.findMethod q) Method.compile

/-- A delegate for receiver `T` with boxed result. -/
def methodDelegateFor (T : TypeTag) (q : MethodQuery) :
    Except DelegateError (MethodDelegate T.Carrier Value) :=
  compileFound (t.findMethod q) fun m => m.compileTyped T .any

/-- A delegate for receiver `T` and result `R`. -/
def methodDelegateTyped (T R : TypeTag) (q : MethodQuery) :
    Except DelegateError (MethodDelegate T.Carrier R.Carrier) :=
  compileFound (t.findMethod q) fun m => m.compileTyped T R

/-- A delegate for receiver `T` and result `R`, with write-back. -/
def methodDelegateByRef (T R : TypeTag) (q : MethodQuery) :
    Except DelegateError (RefMethodDelegate T.Carrier R.Carrier) :=
  compileFound (t.findMethod q) fun m => m.compileByRefTyped T R

/-- A delegate of the constructor with these parameter types. -/
def constructorDelegate (signature : List Formal) :
    Except DelegateError (ConstructorDelegate Value) :=
  compileFound (t.findConstructor signature) Constructor.compile

/-- The same for instances of type `T`. -/
def constructorDelegateTyped (T : TypeTag) (signature : List Formal) :
    Except DelegateError (ConstructorDelegate T.Carrier) :=
  compileFound (t.findConstructor signature) fun c => c.compileTyped T

/-- A delegate that reads an exposed property of any receiver. -/
def getterDelegate (name : String) : Except DelegateError (GetterDelegate Instance Value) :=
  compileFound (t.findProperty name) Property.compileGetter

/-- The same for receiver `T` and value type `V`. -/
def getterDelegateTyped (T V : TypeTag) (name : String) :
    Except DelegateError (GetterDelegate T.Carrier V.Carrier) :=
  compileFound (t.findProperty name) fun p => p.compileGetterTyped T V

/-- A delegate that writes an exposed property of any receiver. -/
def setterDelegate (name : String) : Except DelegateError (SetterDelegate Instance Value) :=
  compileFound (t.findProperty name) Property.compileSetter

/-- The same for receiver `T` and value type `V`. -/
def setterDelegateTyped (T V : TypeTag) (name : String) :
    Except DelegateError (SetterDelegate T.Carrier V.Carrier) :=
  compileFound (t.findProperty name) fun p => p.compileSetterTyped T V

end TypeDef

end LateBinding
