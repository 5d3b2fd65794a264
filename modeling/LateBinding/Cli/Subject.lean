import LateBinding.Lookup
import LateBinding.Registry

/-!
# The subject

The record type that every command works on: an instance has a label.

* `Subject.type`, `Subject.make`, `Subject.label` — the type, and its instances;
* `Subject.format`, `Subject.reset`, `Subject.appendSuffix` — what the methods do, as plain
  functions;
* `Subject.definition` — its members.
-/

namespace LateBinding

namespace Subject

abbrev type : TypeTag := .record "Sample"

def make (label : String) : type.Carrier := [("label", .plain .text label)]

def label (s : type.Carrier) : String :=
  match s with
  | (_, .plain .text label) :: _ => label
  | _ => ""

def format (s : type.Carrier) (first second : String) : String :=
  first ++ "-" ++ second ++ "-" ++ label s

def formatThree (first second third : String) : String :=
  first ++ "-" ++ second ++ "-" ++ third

/-- An instance whose label is made of two texts. -/
def reset (first second : String) : type.Carrier := make (first ++ "/" ++ second)

def appendSuffix (text : String) : String := text ++ ":end"

def readPair (frame : List Value) : Except (Fault BindError) (String × String) :=
  match frame with
  | [] => .error (.outOfBounds 0 0)
  | first :: rest =>
    match first.extract .text, rest with
    | .error e, _ => .error (.error e)
    | .ok _, [] => .error (.outOfBounds 1 1)
    | .ok first, second :: _ =>
      match second.extract .text with
      | .error e => .error (.error e)
      | .ok second => .ok (first, second)

/-- Append the suffix to the first two texts of a frame. -/
def suffixBody : Entry type.Carrier Unit := fun s frame =>
  match readPair frame.values with
  | .error fault => .stopped s frame.values fault
  | .ok (first, second) =>
    ⟨⟨s, .ok ()⟩,
      (frame.values.set 0 (.text (appendSuffix first))).set 1 (.text (appendSuffix second))⟩

theorem suffixBody_keepsLength (s : type.Carrier) (frame : Frame) :
    (suffixBody s frame).args.length = frame.values.length := by
  unfold suffixBody
  split
  · rfl
  · simp

def constructor : Constructor type := ⟨["label"], [.text], fun (label, ()) => .ok (make label)⟩

/-- The methods, in order. -/
def methods : List (Method type) := [
  { name := "format", visibility := .exposed, names := ["first", "second"], result := .text,
    body := .shared [.text, .text] fun s (first, second, ()) => .ok (format s first second) },
  { name := "format", visibility := .exposed, names := ["first", "second", "third"],
    result := .text,
    body := .shared [.text, .text, .text] fun _ (first, second, third, ()) =>
      .ok (formatThree first second third) },
  { name := "reset", visibility := .exposed, names := ["first", "second"], result := .unit,
    body := .exclusive [.text, .text] fun _ (first, second, ()) =>
      (reset first second, .ok ()) },
  { name := "append_suffix", visibility := .exposed, names := ["first", "second"],
    result := .unit,
    body := .raw [.reference .text, .reference .text] suffixBody suffixBody_keepsLength },
  { name := "secret", visibility := .hidden, names := [], result := .text,
    body := .shared [] fun _ () => .ok "hidden" }]

def labelProperty : Property type where
  name := "label"
  visibility := .exposed
  type := .text
  read? := some label
  write? := some fun _ text => make text.datum
  readable := fun _ => rfl
  unseen := by
    rintro _ _ ⟨⟩ _ _ _
    rfl

def definition : TypeDef where
  type := type
  name := type.name
  constructors := [constructor]
  methods := methods
  properties := [labelProperty]

end Subject

end LateBinding
