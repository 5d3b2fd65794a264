import LateBinding.Cli.Subject
import LateBinding.Cli.Arguments
import LateBinding.Cli.Log
import LateBinding.Delegate.Compile
import LateBinding.Text.Escaped

/-!
# Comparison of call strategies

For each kind of member the same call is made directly, reflectively and through delegates of every
tier.  What can be observed of each call is compared with the direct one.

* `Strategy`, `Measurement`, `BenchReport` — a way to make the call, what it showed, and all of them
  for one kind;
* `Bench.Setup` — the strategies of a kind, with the events of lookup and compilation;
* `Bench.report` — the report for one kind; how long the calls take is not part of it.
-/

namespace LateBinding

/-- A way to make a call, with what can be observed of it. -/
structure Strategy where
  name : String
  observed : Except String String

/-- What a strategy showed. -/
structure Measurement where
  strategy : String
  result : String
  matchesDirect : Bool

/-- The strategies for one kind of member. -/
structure BenchReport where
  kind : BenchKind
  member : String
  iterations : Nat
  measurements : List Measurement

/-- Whether all strategies agree with the direct call. -/
def BenchReport.allMatch (r : BenchReport) : Bool := r.measurements.all Measurement.matchesDirect

namespace Bench

/-- What is measured for a kind: the printed member, the strategies, and the events on the way. -/
structure Setup where
  member : String
  strategies : List Strategy
  events : List Event

def compiledEvent (p : Plan) : Event where
  level := .debug
  part := "shimcall::compiler"
  message := s!"compiled shim\n{p.render}"
  fields := [("kind", p.kind.name), ("tier", p.tier.name), ("variant", p.variant.name)]

def lookupEvent (t : TypeDef) (q : MethodQuery) : Event where
  level := .trace
  part := "shimcall_reflect::type_info"
  message := "method lookup"
  fields := [("type_name", t.name), ("member", quoted q.name), ("flags", q.rules.shown),
    ("candidates", toString (t.methodCandidates q).length)]

/-! ### Observations -/

def faultMessage {ε : Type} (message : ε → String) : Fault ε → String
  | .error e => message e
  | .outOfBounds length index => Fault.outOfBoundsMessage length index
  | .aborted text => text

def textOf (v : Value) : Except String String := (v.extract .text).mapError BindError.message

def labelOf (v : Value) : Except String String :=
  match v.downcast? Subject.type with
  | some s => .ok (Subject.label s)
  | none => .error "constructor produced a foreign type"

def receiverLabel (i : Instance) : Except String String := labelOf i.toValue

def joined (args : List Value) : Except String String :=
  (args.mapM textOf).map ",".intercalate

def sample : Subject.type.Carrier := Subject.make "bench"

def sampleInstance : Instance := ⟨Subject.type, sample⟩

def pair : List Value := [.text "a", .text "b"]

def observe {ρ : Type} (outcome : Except (Fault DelegateError) ρ)
    (view : ρ → Except String String) : Except String String :=
  match outcome with
  | .error fault => .error (faultMessage DelegateError.message fault)
  | .ok x => view x

def observeReflective {ρ : Type} (outcome : Except (Fault BindError) ρ)
    (view : ρ → Except String String) : Except String String :=
  match outcome with
  | .error fault => .error (faultMessage BindError.message fault)
  | .ok x => view x

/-! ### Strategies -/

def compileOrFail {α : Type} (r : Except Refusal α) : Except String α :=
  r.mapError fun refusal => (DelegateError.invalidMember refusal).message

def findOrFail {α : Type} (r : Except BindError α) : Except String α := r.mapError BindError.message

def constructorSetup (t : TypeDef) : Except String Setup := do
  let c ← findOrFail (t.findConstructor [.byValue .text])
  let untyped ← compileOrFail c.compile
  let typed ← compileOrFail (c.compileTyped Subject.type)
  let args : List Value := [.text "bench"]
  return {
    member := c.render
    strategies := [
      ⟨"direct", .ok (Subject.label (Subject.make "bench"))⟩,
      ⟨"reflection", observeReflective (c.invoke args) labelOf⟩,
      ⟨"shim (untyped)", observe (untyped.call args) labelOf⟩,
      ⟨"shim (typed)", observe (typed.call args) fun s => .ok (Subject.label s)⟩]
    events := [compiledEvent untyped.plan, compiledEvent typed.plan] }

def methodSetup (t : TypeDef) : Except String Setup := do
  let q : MethodQuery := { name := "format", signature := some [.byValue .text, .byValue .text] }
  let m ← findOrFail (t.findMethod q)
  let untyped ← compileOrFail m.compile
  let receiver ← compileOrFail (m.compileTyped Subject.type .any)
  let typed ← compileOrFail (m.compileTyped Subject.type .text)
  return {
    member := m.render
    strategies := [
      ⟨"direct", .ok (Subject.format sample "a" "b")⟩,
      ⟨"reflection", observeReflective (m.invoke sampleInstance pair).outcome textOf⟩,
      ⟨"shim (untyped)", observe (untyped.call sampleInstance pair).outcome textOf⟩,
      ⟨"shim (instance-typed)", observe (receiver.call sample pair).outcome textOf⟩,
      ⟨"shim (typed)", observe (typed.call sample pair).outcome .ok⟩]
    events := [lookupEvent t q, compiledEvent untyped.plan, compiledEvent receiver.plan,
      compiledEvent typed.plan] }

/-- Calling a method for its effect on the receiver. -/
def voidSetup (t : TypeDef) : Except String Setup := do
  let q : MethodQuery := { name := "reset" }
  let m ← findOrFail (t.findMethod q)
  let untyped ← compileOrFail m.compile
  let typed ← compileOrFail (m.compileTyped Subject.type .unit)
  let reflected := m.invoke sampleInstance pair
  let untypedReply := untyped.call sampleInstance pair
  let typedReply := typed.call sample pair
  return {
    member := m.render
    strategies := [
      ⟨"direct", .ok (Subject.label (Subject.reset "a" "b"))⟩,
      ⟨"reflection", observeReflective reflected.outcome fun _ => receiverLabel reflected.receiver⟩,
      ⟨"shim (untyped)",
        observe untypedReply.outcome fun _ => receiverLabel untypedReply.receiver⟩,
      ⟨"shim (typed)",
        observe typedReply.outcome fun _ => .ok (Subject.label typedReply.receiver)⟩]
    events := [lookupEvent t q, compiledEvent untyped.plan, compiledEvent typed.plan] }

def getterSetup (t : TypeDef) : Except String Setup := do
  let p ← findOrFail (t.findProperty "label")
  let untyped ← compileOrFail p.compileGetter
  let receiver ← compileOrFail (p.compileGetterTyped Subject.type .any)
  let typed ← compileOrFail (p.compileGetterTyped Subject.type .text)
  let read {ρ : Type} (outcome : Except DelegateError ρ) (view : ρ → Except String String) :=
    observe (outcome.mapError .error) view
  return {
    member := (Member.getter p).render
    strategies := [
      ⟨"direct", .ok (Subject.label sample)⟩,
      ⟨"reflection", observeReflective ((p.get sampleInstance).mapError .error) textOf⟩,
      ⟨"shim (untyped)", read (untyped.call sampleInstance) textOf⟩,
      ⟨"shim (instance-typed)", read (receiver.call sample) textOf⟩,
      ⟨"shim (typed)", read (typed.call sample) .ok⟩]
    events := [compiledEvent untyped.plan, compiledEvent receiver.plan, compiledEvent typed.plan] }

def setterSetup (t : TypeDef) : Except String Setup := do
  let p ← findOrFail (t.findProperty "label")
  let untyped ← compileOrFail p.compileSetter
  let receiver ← compileOrFail (p.compileSetterTyped Subject.type .any)
  let typed ← compileOrFail (p.compileSetterTyped Subject.type .text)
  let value : Handed Value := ⟨.text "written", true⟩
  let reflected := p.set sampleInstance value
  let untypedReply := untyped.call sampleInstance value
  let receiverReply := receiver.call sample value
  let typedReply := typed.call sample ⟨"written", true⟩
  return {
    member := (Member.setter p).render
    strategies := [
      ⟨"direct", .ok (Subject.label (Subject.make "written"))⟩,
      ⟨"reflection", observeReflective reflected.outcome fun _ => receiverLabel reflected.receiver⟩,
      ⟨"shim (untyped)",
        observe untypedReply.outcome fun _ => receiverLabel untypedReply.receiver⟩,
      ⟨"shim (instance-typed)",
        observe receiverReply.outcome fun _ => .ok (Subject.label receiverReply.receiver)⟩,
      ⟨"shim (typed)",
        observe typedReply.outcome fun _ => .ok (Subject.label typedReply.receiver)⟩]
    events := [compiledEvent untyped.plan, compiledEvent receiver.plan, compiledEvent typed.plan] }

/-- Calling a method for its effect on the container. -/
def byRefSetup (t : TypeDef) : Except String Setup := do
  let q : MethodQuery := { name := "append_suffix" }
  let m ← findOrFail (t.findMethod q)
  let untyped ← compileOrFail m.compileByRef
  let typed ← compileOrFail (m.compileByRefTyped Subject.type .unit)
  let reflected := m.invokeByRef sampleInstance pair
  let untypedReply := untyped.call sampleInstance pair
  let typedReply := typed.call sample pair
  return {
    member := m.render
    strategies := [
      ⟨"direct", .ok (",".intercalate [Subject.appendSuffix "a", Subject.appendSuffix "b"])⟩,
      ⟨"reflection", observeReflective reflected.outcome fun _ => joined reflected.args⟩,
      ⟨"shim (untyped)", observe untypedReply.outcome fun _ => joined untypedReply.args⟩,
      ⟨"shim (typed)", observe typedReply.outcome fun _ => joined typedReply.args⟩]
    events := [lookupEvent t q, compiledEvent untyped.plan, compiledEvent typed.plan] }

/-- What is measured for a kind. -/
def setup (t : TypeDef) : BenchKind → Except String Setup
  | .constructor => constructorSetup t
  | .method => methodSetup t
  | .void => voidSetup t
  | .getter => getterSetup t
  | .setter => setterSetup t
  | .byRef => byRefSetup t

/-! ### Reports -/

def startEvent (kind : BenchKind) (member : String) (iterations : Nat) : Event where
  level := .debug
  part := "shimcall::commands::bench"
  message := "benchmarking"
  fields := [("kind", kind.logName), ("member", member), ("iterations", toString iterations)]

/-- The observations, each compared with the first. -/
def measure : List Strategy → Except String (List Measurement)
  | [] => .ok []
  | first :: rest => do
    let expected ← first.observed.mapError fun _ => s!"{first.name} failed"
    let others ← rest.mapM fun s => do
      let result ← s.observed.mapError fun _ => s!"{s.name} failed"
      return (⟨s.name, result, result = expected⟩ : Measurement)
    return ⟨first.name, expected, true⟩ :: others

/-- The report for one kind, with the events on the way. -/
def report (t : TypeDef) (iterations : Nat) (kind : BenchKind) :
    List Event × Except String BenchReport :=
  if iterations = 0 then ([], .error "--iterations must be at least 1")
  else
    match setup t kind with
    | .error e => ([], .error e)
    | .ok s =>
      (s.events ++ [startEvent kind s.member iterations],
        (measure s.strategies).map fun measurements =>
          { kind, member := s.member, iterations, measurements })

/-- The reports for several kinds, up to the first failure. -/
def reports (t : TypeDef) (iterations : Nat) :
    List BenchKind → List Event × Except String (List BenchReport)
  | [] => ([], .ok [])
  | kind :: kinds =>
    match report t iterations kind with
    | (events, .error e) => (events, .error e)
    | (events, .ok first) =>
      let (more, rest) := reports t iterations kinds
      (events ++ more, rest.map (first :: ·))

end Bench

end LateBinding
