import LateBinding.Cli.Log
import LateBinding.Cli.Pattern
import LateBinding.Number.Count

/-!
# Log filters

A filter is a list of directives, separated by commas: `part[span{field=value}]=level`, where all
but one may be missing.  A text that is no such list shows nothing.

* `Directive` — a rule: events of the part, and with the field, are shown up to the level;
* `Directive.parse?`, `Filter.parse?` — reading directives;
* `Filter.governing?` — the rule for an event: the most specific one that applies to it.  Events do
  not happen within spans here, and are not told apart by the values of their fields, so directives
  that name those apply to none;
* `Filter.shows`, `renderLog` — the events shown, and their lines.
-/

namespace LateBinding

/-- A field that a directive asks for. -/
structure FieldFilter where
  name : String
  valued : Bool
  deriving DecidableEq, Repr

/-- A filter rule. -/
structure Directive where
  /-- How the name of the part begins; every name begins with the empty one. -/
  part : String := ""
  span : Option String := none
  field : Option FieldFilter := none
  level : Level
  deriving DecidableEq, Repr

/-- The levels by rank, or by name in any case. -/
def Level.named? (text : List Char) : Option Level :=
  match (readCount? text).bind ofRank? with
  | some level => some level
  | none =>
    match String.ofList (text.map Char.toLower) with
    | "off" => some off
    | "error" => some error
    | "warn" => some warn
    | "info" => some info
    | "debug" => some debug
    | "trace" => some trace
    | _ => none

/-! ### Pieces of a text by bytes -/

/-- The text from byte `n` on, if a character ends there. -/
def dropBytes : List Char → (n : Nat) → Option (List Char)
  | cs, 0 => some cs
  | [], _ + 1 => none
  | c :: cs, n + 1 => if c.utf8Size ≤ n + 1 then dropBytes cs (n + 1 - c.utf8Size) else none

/-- The first `n` bytes of the text, if a character ends there. -/
def takeBytes : List Char → (n : Nat) → Option (List Char)
  | _, 0 => some []
  | [], _ + 1 => none
  | c :: cs, n + 1 =>
    if c.utf8Size ≤ n + 1 then (takeBytes cs (n + 1 - c.utf8Size)).map (c :: ·) else none

/-- The bytes from `first` up to `last`. -/
def slice? (text : List Char) (first last : Nat) : Option (List Char) :=
  (dropBytes text first).bind fun rest => takeBytes rest (last - first)

namespace Directive

/-! ### Reading -/

/-- Which piece of a directive is being read, and where it starts. -/
inductive Mode where
  | start
  /-- A level or a part. -/
  | head (first : Nat)
  | span (first : Nat)
  | field (first : Nat)
  /-- Behind a field. -/
  | fieldClosed
  /-- Behind the brackets. -/
  | closed
  | level (first : Nat)
  deriving DecidableEq, Repr

/-- What has been read of a directive; its level comes last. -/
structure Scan where
  mode : Mode := .start
  read : Directive := { level := .trace }

/-- Whether a directive can begin with the character; brackets apart. -/
def opens (c : Char) : Bool := isAlphanumeric c || c = '-' || c = ':' || c = '_'

/-- A field, with the value after the first equals sign. -/
def fieldFilter? (text : List Char) : Option FieldFilter :=
  let name := String.ofList (text.takeWhile (· ≠ '='))
  match text with
  | [] => none
  | _ =>
    match text.dropWhile (· ≠ '=') with
    | [] => some ⟨name, false⟩
    | _ :: value => if Pattern.isValue (value.takeWhile (· ≠ '=')) then some ⟨name, true⟩ else none

/-- Read one character, at byte `i`.  The pieces are cut from `text`. -/
def Scan.step (text : List Char) (s : Scan) (i : Nat) (c : Char) : Option Scan :=
  match s.mode, c with
  | .start, '[' => some { s with mode := .span (i + 1) }
  | .start, c => if opens c then some { s with mode := .head i } else none
  | .head first, '=' => (slice? text first i).map fun part =>
    ⟨.level (i + 1), { s.read with part := String.ofList part }⟩
  | .head first, '[' => (slice? text first i).map fun part =>
    ⟨.span (i + 1), { s.read with part := String.ofList part }⟩
  | .head _, _ => some s
  | .span first, ']' => (slice? text first i).map fun span =>
    ⟨.closed, { s.read with span := some (String.ofList span) }⟩
  | .span first, '{' => (slice? text first i).map fun span =>
    ⟨.field (i + 1),
      { s.read with span := if span = [] then none else some (String.ofList span) }⟩
  | .span _, _ => some s
  | .field first, '}' => ((slice? text first i).bind fieldFilter?).map fun field =>
    ⟨.fieldClosed, { s.read with field := some field }⟩
  | .field _, _ => some s
  | .fieldClosed, ']' => some { s with mode := .closed }
  | .closed, '=' => some { s with mode := .level (i + 1) }
  | .level _, _ => some s
  | .fieldClosed, _ | .closed, _ => none

/-- Read characters from byte `i` on. -/
def Scan.run (text : List Char) : (s : Scan) → (i : Nat) → List Char → Option Scan
  | s, _, [] => some s
  | s, i, c :: cs =>
    match s.step text i c with
    | some s => run text s (i + c.utf8Size) cs
    | none => none

/-- The directive that has been read.  A part or a bracket without a level is shown in full. -/
def Scan.finish? (text : List Char) (s : Scan) : Option Directive :=
  match s.mode with
  | .head first => (dropBytes text first).map fun word =>
    match Level.named? word with
    | some level => { level }
    | none => { part := String.ofList word, level := .trace }
  | .level first => (dropBytes text first).bind fun word =>
    if word = [] then some { s.read with level := .trace }
    else (Level.named? word).map fun level => { s.read with level }
  | .closed => some { s.read with level := .trace }
  | .start | .span _ | .field _ | .fieldClosed => none

/-- One directive.  The pieces are found without the blanks around the directive, and then cut at
the same positions with them. -/
def parse? (text : List Char) : Option Directive :=
  (Scan.run text {} 0 (trimBlanks text)).bind (Scan.finish? text)

/-! ### Rules -/

def reaches (d : Directive) (e : Event) : Bool :=
  d.span.isNone && d.part.toList.isPrefixOf e.part.toList &&
    match d.field with
    | none => true
    | some field => !field.valued && e.fieldNames.contains field.name

/-- Whether `d` is more specific than `d'`, of two directives that apply to one event: it names a
longer beginning of the part, or as long a one and a field, or the field that is later in the
alphabet. -/
def moreSpecific (d d' : Directive) : Bool :=
  d'.part.length < d.part.length ||
    d.part.length = d'.part.length &&
      match d.field, d'.field with
      | some field, some field' => field'.name < field.name
      | some _, none => true
      | none, _ => false

end Directive

abbrev Filter := List Directive

namespace Filter

/-- Cut a list at each `mark`. -/
def cut (mark : Char) : List Char → List (List Char)
  | [] => [[]]
  | c :: cs =>
    match cut mark cs with
    | piece :: pieces => if c = mark then [] :: piece :: pieces else (c :: piece) :: pieces
    | [] => [[c]]

/-- The directives of a text, separated by commas. -/
def parse? (text : String) : Option Filter :=
  ((cut ',' text.toList).filter (· ≠ [])).mapM Directive.parse?

/-- The directive for an event: the most specific one that applies, and of several such the
last. -/
def governing? (e : Event) (filter : Filter) : Option Directive :=
  (filter.filter (·.reaches e)).foldl
    (fun best? d =>
      match best? with
      | some best => if best.moreSpecific d then some best else some d
      | none => some d)
    none

def shows (filter : Filter) (e : Event) : Bool :=
  match filter.governing? e with
  | some d => e.level.rank ≤ d.level.rank
  | none => false

end Filter

/-- The lines of the events that a filter shows; without a filter nothing is shown. -/
def renderLog (filter? : Option Filter) (events : List Event) : String :=
  match filter? with
  | none => ""
  | some filter => String.join ((events.filter filter.shows).map Event.render)

end LateBinding
