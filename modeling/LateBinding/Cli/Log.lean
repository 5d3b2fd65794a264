/-!
# Log

What a run reports about itself.

* `Level` — how detailed a report is;
* `Event` — a report: its level, the part of the program it comes from, a message, and named values;
* `Event.render` — the line of an event.
-/

namespace LateBinding

/-- Levels of events, and of what is shown of them. -/
inductive Level where
  | off
  | error
  | warn
  | info
  | debug
  | trace
  deriving DecidableEq, Repr

namespace Level

def rank : Level → Nat
  | off => 0
  | error => 1
  | warn => 2
  | info => 3
  | debug => 4
  | trace => 5

def ofRank? : Nat → Option Level
  | 0 => some off
  | 1 => some error
  | 2 => some warn
  | 3 => some info
  | 4 => some debug
  | 5 => some trace
  | _ => none

/-- Name in a log line, five characters wide. -/
def tag : Level → String
  | off => "  OFF"
  | error => "ERROR"
  | warn => " WARN"
  | info => " INFO"
  | debug => "DEBUG"
  | trace => "TRACE"

end Level

/-- Something that happened during a run. -/
structure Event where
  level : Level
  part : String
  message : String
  /-- Named values, as printed. -/
  fields : List (String × String) := []

namespace Event

/-- The names of all that an event carries; the message has a name as well. -/
def fieldNames (e : Event) : List String := "message" :: e.fields.map (·.1)

def render (e : Event) : String :=
  s!" {e.level.tag} {e.part}: {e.message}" ++
    String.join (e.fields.map fun (name, value) => s!" {name}={value}") ++ "\n"

end Event

end LateBinding
