import LateBinding.Number.BinaryFloat

/-!
# Leaf data

The kinds of data that hold no further values, and the widenings between them.

* `Leaf`, `Leaf.Content` — the kinds, and the data of a kind;
* `IntKind.wider` — the integer kinds that an integer is widened to without being asked;
* `Leaf.widening?` — the conversion from one kind to another, where there is one.  Every widening
  keeps the number or the text: an integer goes to a kind that has all integers of its own, or to a
  floating-point format with enough precision for all of them.
-/

namespace LateBinding

/-- The kinds of leaf data.  A `literal` is a text that lives as long as the program, a type of its
own beside `text`. -/
inductive Leaf where
  | text
  | literal
  | bool
  | char
  | int (kind : IntKind)
  | single
  | double
  | texts
  deriving DecidableEq, Repr

abbrev Leaf.Content : Leaf → Type
  | .text | .literal => String
  | .bool => Bool
  | .char => Char
  | .int k => Word k
  | .single => Single
  | .double => Double
  | .texts => List String

def Leaf.name : Leaf → String
  | .text => "String"
  | .literal => "&str"
  | .bool => "bool"
  | .char => "char"
  | .int k => k.name
  | .single => "f32"
  | .double => "f64"
  | .texts => "Vec<String>"

def boolWord (b : Bool) : String := if b then "true" else "false"

/-! ### Widening -/

namespace IntKind

/-- The integer kinds that an integer of the given kind widens to.  Of the pointer-sized kinds only
the unsigned one is a target, and only of the two narrowest unsigned kinds. -/
def wider : IntKind → List IntKind
  | .i8 => [.i16, .i32, .i64]
  | .i16 => [.i32, .i64]
  | .i32 => [.i64]
  | .u8 => [.u16, .u32, .u64, .usize, .i16, .i32, .i64]
  | .u16 => [.u32, .u64, .usize, .i32, .i64]
  | .u32 => [.u64, .i64]
  | .i64 | .isize | .u64 | .usize | .u128 => []

theorem within_of_mem_wider {j k : IntKind} (h : k ∈ j.wider) : j.Within k := by
  revert h
  cases j <;> cases k <;> decide

/-- Whether integers of the kind widen to floating-point numbers of format `f`: the kind is a
target or source of integer widening, and `f` has all its integers. -/
def widensToFloat (j : IntKind) (f : FloatFormat) : Bool :=
  j.wider ≠ [] ∧ j.width ≤ f.precision

end IntKind

namespace Leaf

/-- The widening from kind `a` to kind `b`. -/
def widening? : (a b : Leaf) → Option (a.Content → b.Content)
  | .int j, .int k =>
    if h : k ∈ j.wider then some (Word.embed (IntKind.within_of_mem_wider h)) else none
  | .int j, .single =>
    if j.widensToFloat .single then some (fun n => .ofInt .single n.value) else none
  | .int j, .double =>
    if j.widensToFloat .double then some (fun n => .ofInt .double n.value) else none
  | .single, .double => some (BinaryFloat.widen FloatFormat.single_within_double)
  | .literal, .text => some id
  | .char, .text => some String.singleton
  | _, _ => none

/-- Whether kind `a` widens to kind `b`. -/
def widens (a b : Leaf) : Bool := (widening? a b).isSome

end Leaf

end LateBinding
