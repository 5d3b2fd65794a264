import LateBinding.Number.Count

/-!
# Command line arguments

* `OptionSpec`, `readOptions` — reading options and words of a command line: `--name value`,
  `--name=value`, `-n value`, `-nvalue`, and after `--` words only;
* `Command`, `Request`, `Invocation` — what can be asked for;
* `Invocation.parse?` — what a command line asks for; none for a wrong one.
-/

namespace LateBinding

/-- The kinds of calls that can be measured. -/
inductive BenchKind where
  | constructor
  | method
  | void
  | getter
  | setter
  | byRef
  deriving DecidableEq, Repr

namespace BenchKind

/-- All kinds, in the order in which they are measured. -/
def all : List BenchKind := [.constructor, .method, .void, .getter, .setter, .byRef]

def name : BenchKind → String
  | constructor => "constructor"
  | method => "method"
  | void => "void"
  | getter => "getter"
  | setter => "setter"
  | byRef => "by-ref"

def logName : BenchKind → String
  | constructor => "Constructor"
  | method => "Method"
  | void => "Void"
  | getter => "Getter"
  | setter => "Setter"
  | byRef => "ByRef"

def named? (name : String) : Option BenchKind := all.find? (·.name = name)

end BenchKind

/-- How much of a planned call is typed. -/
inductive PlanTier where
  | untyped
  | receiver
  | typed
  deriving DecidableEq, Repr

def PlanTier.named? : String → Option PlanTier
  | "untyped" => some untyped
  | "instance" => some receiver
  | "typed" => some typed
  | _ => none

/-- The commands. -/
inductive Command where
  /-- Compare the strategies for calls of the given kinds.  With `json` the reports are printed;
  without it the exit code alone tells whether the strategies agree. -/
  | bench (kinds : List BenchKind) (iterations : Nat) (json : Bool)
  | plan (member : String) (tier : PlanTier) (byRef : Bool) (arity : Option Nat)
  | members

/-- A command and how its output is to look. -/
structure Request where
  color : Option String
  command : Command

/-- What a command line asks for. -/
inductive Invocation where
  | version
  | request (r : Request)

/-! ### Options and words -/

/-- An option. -/
structure OptionSpec where
  name : String
  short : Option Char := none
  valued : Bool := true
  /-- Whether it may be given more than once. -/
  repeated : Bool := false
  /-- Whether nothing behind it matters. -/
  final : Bool := false

/-- The options and words read so far, the last ones first. -/
structure Matches where
  options : List (String × String) := []
  words : List String := []

namespace Matches

/-- The values of an option, in order. -/
def values (m : Matches) (name : String) : List String :=
  (m.options.filter (·.1 = name)).map (·.2) |>.reverse

/-- The value of an option that is given at most once. -/
def value? (m : Matches) (name : String) : Option String := (m.values name).head?

def has (m : Matches) (name : String) : Bool := m.options.any (·.1 = name)

/-- One option more, unless it may not be repeated. -/
def withOption? (m : Matches) (spec : OptionSpec) (value : String) : Option Matches :=
  if !spec.repeated && m.has spec.name then none
  else some { m with options := (spec.name, value) :: m.options }

def withWord (m : Matches) (word : String) : Matches := { m with words := word :: m.words }

end Matches

/-- What an argument of the command line is. -/
inductive Argument where
  | wordsOnly
  | word
  /-- An option, with its value if that is attached. -/
  | option (spec : OptionSpec) (attached : Option String)
  | unknown

/-- Cut a text at its first equals sign. -/
def cutAtEquals : List Char → String × Option String
  | cs =>
    match cs.dropWhile (· ≠ '=') with
    | [] => (String.ofList cs, none)
    | _ :: value => (String.ofList (cs.takeWhile (· ≠ '=')), some (String.ofList value))

/-- Sort an argument in. -/
def Argument.classify (specs : List OptionSpec) (arg : String) : Argument :=
  match arg.toList with
  | ['-', '-'] => wordsOnly
  | '-' :: '-' :: long =>
    let (name, attached) := cutAtEquals long
    match specs.find? (·.name = name) with
    | some spec => option spec attached
    | none => unknown
  | '-' :: c :: rest =>
    match specs.find? (·.short = some c) with
    | some spec =>
      option spec <| match rest with
        | [] => none
        | '=' :: value => if spec.final then none else some (String.ofList value)
        | value => if spec.final then none else some (String.ofList value)
    | none => unknown
  | _ => word

/-- Whether a text can be the value of the option in front of it. -/
def standsAsValue (arg : String) : Bool :=
  match arg.toList with
  | '-' :: _ :: _ => false
  | _ => true

/-- Read options and words, up to a final option.  With `first` set, stop in front of the first
word. -/
def readOptions (specs : List OptionSpec) (first : Bool) :
    List String → Matches → Option (Matches × List String)
  | [], m => some (m, [])
  | arg :: args, m =>
    match Argument.classify specs arg with
    | .unknown => none
    | .wordsOnly => if first then none else some (args.foldl Matches.withWord m, [])
    | .word =>
      if first then some (m, arg :: args) else readOptions specs first args (m.withWord arg)
    | .option spec attached =>
      match spec.valued, attached, args with
      | false, some _, _ => none
      | false, none, args =>
        match m.withOption? spec "" with
        | some m => if spec.final then some (m, []) else readOptions specs first args m
        | none => none
      | true, some value, args =>
        match m.withOption? spec value with
        | some m => readOptions specs first args m
        | none => none
      | true, none, [] => none
      | true, none, value :: args =>
        if standsAsValue value then
          match m.withOption? spec value with
          | some m => readOptions specs first args m
          | none => none
        else none

/-! ### Requests -/

namespace Request

def colorSpec : OptionSpec := { name := "color" }

def benchSpecs : List OptionSpec :=
  [colorSpec, { name := "kind", short := some 'k', repeated := true },
   { name := "iterations", short := some 'n' }, { name := "json", valued := false }]

def planSpecs : List OptionSpec :=
  [colorSpec, { name := "tier", short := some 't' }, { name := "by-ref", valued := false },
   { name := "arity" }]

/-- Measure; without kinds, all of them. -/
def bench? (m : Matches) : Option Command := do
  guard m.words.isEmpty
  let kinds ← (m.values "kind").mapM BenchKind.named?
  let iterations ← match m.value? "iterations" with
    | none => some 100000
    | some text => readCount? text.toList
  return .bench kinds iterations (m.has "json")

def plan? (m : Matches) : Option Command := do
  let [member] := m.words | none
  let tier ← match m.value? "tier" with
    | none => some .untyped
    | some text => PlanTier.named? text
  let arity ← match m.value? "arity" with
    | none => some none
    | some text => (readCount? text.toList).map some
  return .plan member tier (m.has "by-ref") arity

def members? (m : Matches) : Option Command := do
  guard m.words.isEmpty
  return .members

/-- The options of a command, and how a request for it is made from them. -/
def command? : String → Option (List OptionSpec × (Matches → Option Command))
  | "bench" => some (benchSpecs, bench?)
  | "plan" => some (planSpecs, plan?)
  | "members" => some ([colorSpec], members?)
  | _ => none

end Request

namespace Invocation

def outerSpecs : List OptionSpec :=
  [Request.colorSpec,
   { name := "version", short := some 'V', valued := false, final := true }]

/-- What a command line asks for.  The colour may be given before the command or after it; the
latter counts. -/
def parse? (args : List String) : Option Invocation := do
  let (outer, rest) ← readOptions outerSpecs true args {}
  if outer.has "version" then return version
  let name :: args := rest | none
  let (specs, make) ← Request.command? name
  let (inner, _) ← readOptions specs false args {}
  let command ← make inner
  return request ⟨(inner.value? "color").or (outer.value? "color"), command⟩

end Invocation

end LateBinding
