import LateBinding.Store
import LateBinding.Value.Reading

/-!
# Variables on shared data

A pool is a store together with named handles on it.  A variable that is written to gives its old
handle up.

* `Pool.ref`, `Pool.view` — the handle and the plain value of a variable;
* `Pool.isUnique`, `Pool.same` — whether a variable is the sole owner of its datum, and whether two
  variables share one datum;
* `Pool.Step`, `Pool.step`, `Pool.run` — the steps that change a pool, and their effect;
* `Pool.Outcome` — what a step reports.

Data are read off the view: reading copies, whatever it is done for.
-/

namespace LateBinding

/-- Named handles on a store. -/
structure Pool where
  handles : List (String × Ref) := []
  store : Store := {}

namespace Pool

/-- The handle of a variable, if the variable exists. -/
def ref? (p : Pool) (name : String) : Option Ref :=
  (p.handles.find? (·.1 = name)).map (·.2)

/-- The handle of a variable; null where there is no such variable. -/
def ref (p : Pool) (name : String) : Ref := (p.ref? name).join

def view (p : Pool) (name : String) : Value := p.store.view (p.ref name)

/-- Whether the variable is the only owner of its datum. -/
def isUnique (p : Pool) (name : String) : Bool := p.store.isUnique (p.ref name)

/-- Whether two variables share one datum, or are both null. -/
def same (p : Pool) (a b : String) : Bool := p.ref a = p.ref b

/-- Replace the handle of an existing variable, or add the variable. -/
def setHandle (name : String) (ref : Ref) : List (String × Ref) → List (String × Ref)
  | [] => [(name, ref)]
  | (other, old) :: rest =>
    if other = name then (name, ref) :: rest else (other, old) :: setHandle name ref rest

/-- Let a variable take over a handle; its old one is given up. -/
def bind (p : Pool) (name : String) (ref : Ref) : Pool :=
  ⟨setHandle name ref p.handles, p.store.releaseRef (p.ref name)⟩

def unbind (p : Pool) (name : String) : Pool :=
  ⟨p.handles.filter (·.1 ≠ name), p.store.releaseRef (p.ref name)⟩

/-- The steps that change a pool. -/
inductive Step where
  | make (target : String) (draft : Draft)
  /-- Bind the variable `target` to the datum of the variable `source`. -/
  | share (source target : String)
  /-- Give up a variable. -/
  | drop (source : String)
  /-- Write a datum of its present type to a variable, if it is the only owner. -/
  | write (target : String) (content : Content Draft)
  /-- Give up a variable for its datum of type `T`. -/
  | intoInner (T : TypeTag) (source : String)
  /-- Give up a variable for an assigned value of type `T`. -/
  | takeValue (T : TypeTag) (source : String)
  /-- Coerce a variable to type `T`, and bind the result to the variable `target`. -/
  | coerce (T : TypeTag) (source target : String)

/-- What a step reports. -/
inductive Outcome where
  | done
  /-- Whether there was something to give up, or to write to. -/
  | flag (b : Bool)
  /-- The datum read, or the failure to read it. -/
  | read (result : Except BindError Value)
  /-- The coerced value, if there is one. -/
  | coerced (value? : Option Value)

/-- Box the datum that reading at type `T` yields. -/
def boxed (T : TypeTag) (result : Except BindError T.Carrier) : Except BindError Value :=
  result.map (Value.ofCarrier T)

/-- Write a newly made datum to the cell of a variable, or give it up again. -/
def write (p : Pool) (target : String) (draft : Content Draft) : Bool × Pool :=
  let (content, store) := Store.buildContent p.ref draft p.store
  let ref := p.ref target
  match ref, store.isUnique ref, store.read? ref with
  | some a, true, some old =>
    if old.tag = content.tag then
      (true, ⟨p.handles, (store.put a (some ⟨1, content⟩)).release old.held⟩)
    else (false, ⟨p.handles, store.release content.held⟩)
  | _, _, _ => (false, ⟨p.handles, store.release content.held⟩)

def step (p : Pool) : Step → Outcome × Pool
  | .make target draft =>
    let (ref, store) := Store.build p.ref draft p.store
    (.done, bind ⟨p.handles, store⟩ target ref)
  | .share source target =>
    (.done, bind ⟨p.handles, p.store.retain (p.ref source)⟩ target (p.ref source))
  | .drop source => (.flag (p.ref? source).isSome, p.unbind source)
  | .write target draft =>
    let (written, p) := p.write target draft
    (.flag written, p)
  | .intoInner T source => (.read (boxed T ((p.view source).intoInner T)), p.unbind source)
  | .takeValue T source => (.read (boxed T ((p.view source).takeValue T)), p.unbind source)
  | .coerce T source target =>
    match retype T (p.store.read? (p.ref source)) with
    | none => (.coerced none, p)
    | some .kept =>
      let p := bind ⟨p.handles, p.store.retain (p.ref source)⟩ target (p.ref source)
      (.coerced (p.view target), p)
    | some (.fresh content) =>
      let (ref, store) := p.store.alloc content
      let p := bind ⟨p.handles, store⟩ target ref
      (.coerced (p.view target), p)

def run (p : Pool) (steps : List Step) : Pool := steps.foldl (fun p s => (p.step s).2) p

end Pool

end LateBinding
