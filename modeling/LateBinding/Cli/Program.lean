import LateBinding.Cli.Bench
import LateBinding.Cli.Filter
import LateBinding.Cli.Style

/-!
# The program

What the command line program does, as a function of its arguments and of its environment.

* `Environment` — what is read from the environment: the objection to colour, what the terminal can
  do, and the log filter;
* `Outcome` — exit code, output, and the reports of a measurement, which are printed once the times
  are known;
* `Program.run` — a run.
-/

namespace LateBinding

/-- What is read from the environment. -/
structure Environment where
  /-- Colour is objected to. -/
  noColor : Bool := false
  /-- The terminal can show colours. -/
  terminalColors : Bool := true
  log : Option String := none

/-- How a run ends. -/
structure Outcome where
  exit : Nat
  output : String := ""
  errors : String := ""
  /-- The reports of a measurement that is to be printed as data. -/
  reports : Option (List BenchReport) := none

namespace Program

def failure (message : String) : String := s!"Error: {message}\n"

/-- The registry with the subject in it, and the subject's definition. -/
def registered : Registry × TypeDef :=
  ({} : Registry).getOrRegister Subject.type fun r => (r, Subject.definition)

def registrationEvent (t : TypeDef) : Event where
  level := .debug
  part := "shimcall_reflect::registry"
  message := "registered type"
  fields := [("type_name", quoted t.name)]

/-- The event of an installed log. -/
def startEvent : Event where
  level := .debug
  part := "shimcall"
  message := "tracing initialized"

def versionLine : String := "shimcall 0.2.0\n"

/-! ### Planning -/

/-- The one member found for `spec`. -/
def single {α : Type} (spec : String) : List α → Except String α
  | [] => .error ("no member matches `" ++ spec ++ "`")
  | [found] => .ok found
  | found => .error ("`" ++ spec ++ s!"` matches {found.length} overloads, pick one with --arity")

/-- Whether a number of parameters is the one asked for. -/
def arityMatches (arity : Option Nat) (n : Nat) : Bool := arity.all (· = n)

/-- The member a command line means: `new`, `get:` or `set:` and the name of a property, or the name
of a method of any visibility. -/
def findMember (t : TypeDef) (spec : String) (arity : Option Nat) :
    Except String (Member t.type) :=
  match spec.toList with
  | ['n', 'e', 'w'] =>
    (single spec (t.constructors.filter fun c => arityMatches arity c.arity)).map .constructor
  | 'g' :: 'e' :: 't' :: ':' :: name =>
    ((t.findProperty (String.ofList name)).mapError BindError.message).map .getter
  | 's' :: 'e' :: 't' :: ':' :: name =>
    ((t.findProperty (String.ofList name)).mapError BindError.message).map .setter
  | _ =>
    (single spec (t.methods.filter fun m =>
      BindingRules.everything.nameMatches m.name spec && arityMatches arity m.arity)).map .method

/-- The result type that the typed tier asks for. -/
def typedResult {declaring : TypeTag} : Member declaring → TypeTag
  | .setter p => p.type
  | member => member.returns.getD .unit

def planAt {declaring : TypeTag} (tier : PlanTier) (variant : Variant) (member : Member declaring) :
    Except String Plan :=
  let plan := match tier with
    | .untyped => member.plan .object .any variant
    | .receiver => member.plan Subject.type .any variant
    | .typed => member.plan Subject.type (typedResult member) variant
  plan.mapError fun refusal => (DelegateError.invalidMember refusal).message

def showPlan (p : Palette) (member : String) (plan : Plan) : String :=
  p.heading member ++ p.dim plan.render ++ "\n" ++
    if plan.writeBacks = 0 then ""
    else p.label s!"{plan.writeBacks} by-ref slot(s) written back" ++ "\n"

/-! ### Listing -/

def padded (width : Nat) (text : String) : String :=
  text ++ String.ofList (List.replicate (width - text.length) ' ')

def memberLine {declaring : TypeTag} (p : Palette) (member : Member declaring) : String :=
  let remarks := match member with
    | .method m =>
      (if m.visibility = .hidden then p.dim "  (private)" else "") ++
        (if m.hasByRef then p.dim "  (by-ref)" else "")
    | _ => ""
  p.label ("  " ++ padded 16 member.kind.name) ++ member.render ++ remarks ++ "\n"

def showMembers (p : Palette) (t : TypeDef) : String :=
  p.heading s!"{t.name} ({t.members.length} members)" ++
    String.join (t.members.map (memberLine p))

/-! ### Running -/

/-- Carry out a command; the events on the way come first. -/
def perform (p : Palette) (t : TypeDef) : Command → List Event × Outcome
  | .members => ([], { exit := 0, output := showMembers p t })
  | .plan spec tier byRef arity =>
    let found := do
      let member ← findMember t spec arity
      let plan ← planAt tier (if byRef then .byRef else .byValue) member
      return showPlan p member.render plan
    match found with
    | .ok output => ([], { exit := 0, output })
    | .error e => ([], { exit := 1, errors := failure e })
  | .bench kinds iterations json =>
    let kinds := if kinds.isEmpty then BenchKind.all else kinds
    match Bench.reports t iterations kinds with
    | (events, .error e) => (events, { exit := 1, errors := failure e })
    | (events, .ok reports) =>
      let agreed := reports.all BenchReport.allMatch
      (events, {
        exit := if agreed then 0 else 1
        errors := if agreed then "" else failure "result mismatch"
        reports := if json then some reports else none })

/-- A run of the program.  A wrong command line ends with exit code 2. -/
def run (env : Environment) (args : List String) : Outcome :=
  let filter? := env.log.bind Filter.parse?
  match Invocation.parse? args with
  | none => { exit := 2 }
  | some .version => { exit := 0, output := versionLine, errors := renderLog filter? [startEvent] }
  | some (.request request) =>
    let palette := Palette.choose env.noColor request.color env.terminalColors
    let t := registered.2
    let (events, outcome) := perform palette t request.command
    let log := renderLog filter? (startEvent :: registrationEvent t :: events)
    { outcome with errors := log ++ outcome.errors }

end Program

end LateBinding
