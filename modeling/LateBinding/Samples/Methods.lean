import LateBinding.Samples.Host
import LateBinding.Member.Method
import LateBinding.Number.Rounding

/-!
# Methods of the sample types

* `reading?`, `changing?` — the bodies that only read the receiver, and those that may change it;
* `sampleMethod?` — the method of a sample type whose body goes by a given name.

Integer arithmetic is modulo the width.  A body that may change the receiver counts the call unless
it sets the count itself.
-/

namespace LateBinding

abbrev SampleBody (path : String) := (result : TypeTag) × MethodBody (hostType path) result

/-- A body that computes its result from the state and the arguments. -/
def readingBody (path : String) (types : List TypeTag) (result : TypeTag)
    (run : Host → Args types → result.Carrier) : Option (SampleBody path) :=
  some ⟨result, .shared types fun s args => .ok (run (.ofFields s) args)⟩

/-- A body that computes the next state as well. -/
def changingBody (path : String) (types : List TypeTag) (result : TypeTag)
    (run : Host → Args types → Host × result.Carrier) : Option (SampleBody path) :=
  some ⟨result, .exclusive types fun s args =>
    let (h, x) := run (.ofFields s) args
    (h.toFields, .ok x)⟩

def identityBody (path : String) (T : TypeTag) : Option (SampleBody path) :=
  some ⟨T, .shared [T] fun _ (x, ()) => .ok x⟩

/-- Bodies that only read the receiver. -/
def reading? (path : String) : (body : String) → Option (SampleBody path)
  | "text" => readingBody path [] .text fun h () => h.text
  | "concat2" => readingBody path [.text, .text] .text fun h (a, b, ()) =>
    a ++ "-" ++ b ++ "-" ++ h.text
  | "concat3" => readingBody path [.text, .text, .text] .text fun _ (a, b, c, ()) =>
    a ++ "-" ++ b ++ "-" ++ c
  | "join6" =>
    readingBody path [.text, .text, .text, .text, .text, .text] .text
      fun _ (a, b, c, d, e, f, ()) => ",".intercalate [a, b, c, d, e, f]
  | "num_plus" => readingBody path [.int .i64] (.int .i64) fun h (n, ()) => h.num + n
  | "scaled" => readingBody path [.double] .double fun h (x, ()) => h.real * x
  | "describe" => readingBody path [.any] .text fun _ (v, ()) => v.typeName
  | "echo" => identityBody path .any
  | "copy" => some ⟨hostType path, .shared [] fun s () => .ok s⟩
  | "merge" => readingBody path [hostType path] (.int .i64) fun h (other, ()) =>
    h.num + (Host.ofFields other).num
  | "is_even" => readingBody path [] .bool fun h () => h.num.value % 2 = 0
  | "noop" => readingBody path [] .unit fun _ () => ()
  | "mix4" => readingBody path [.text, .int .i64, .bool, .char] .text fun _ (a, b, c, d, ()) =>
    "|".intercalate [a, b.render, boolWord c, d.toString]
  | "mix5" =>
    readingBody path [.int .i8, .int .u8, .int .i16, .int .u16, .int .i32] (.int .i64)
      fun _ (a, b, c, d, e, ()) =>
        .wrap .i64 (a.value + b.value + c.value + d.value + e.value)
  | "mix6" =>
    readingBody path [.int .u32, .int .u64, .int .usize, .single, .double, .int .i64] .double
      fun _ (_, _, _, x, y, _, ()) => x.widen FloatFormat.single_within_double + y
  | "id_String" => identityBody path .text
  | "id_&str" => identityBody path .literal
  | "id_bool" => identityBody path .bool
  | "id_char" => identityBody path .char
  | "id_i8" => identityBody path (.int .i8)
  | "id_i16" => identityBody path (.int .i16)
  | "id_i32" => identityBody path (.int .i32)
  | "id_i64" => identityBody path (.int .i64)
  | "id_u8" => identityBody path (.int .u8)
  | "id_u16" => identityBody path (.int .u16)
  | "id_u32" => identityBody path (.int .u32)
  | "id_u64" => identityBody path (.int .u64)
  | "id_usize" => identityBody path (.int .usize)
  | "id_f32" => identityBody path .single
  | "id_f64" => identityBody path .double
  | _ => none

/-- Add an integer to the number of the state, which is also the result. -/
def addTo (h : Host) (n : Int) : Host × Word .i64 :=
  let num := .wrap .i64 (h.num.value + n)
  ({ h.called with num }, num)

/-- Bodies that may change the receiver. -/
def changing? (path : String) : (body : String) → Option (SampleBody path)
  | "touch" => changingBody path [] .unit fun h () => (h.called, ())
  | "set_text" => changingBody path [.text] .unit fun h (text, ()) => ({ h.called with text }, ())
  | "replace2" => changingBody path [.text, .text] .unit fun h (a, b, ()) =>
    ({ h.called with text := a ++ "/" ++ b }, ())
  | "add" => changingBody path [.int .i64] (.int .i64) fun h (n, ()) => addTo h n.value
  | "add_i32" => changingBody path [.int .i32] (.int .i64) fun h (n, ()) => addTo h n.value
  | "add_u8" => changingBody path [.int .u8] (.int .i64) fun h (n, ()) => addTo h n.value
  | "mul" => changingBody path [.double] .double fun h (x, ()) =>
    let real := h.real * x
    ({ h.called with real }, real)
  | "store" => changingBody path [.any] .unit fun h (any, ()) => ({ h.called with any }, ())
  | "swap" => changingBody path [.any] .any fun h (any, ()) => ({ h.called with any }, h.any)
  | "take3" => changingBody path [.text, .int .i64, .any] .any fun h (text, num, any, ()) =>
    ({ h.called with text, num, any }, h.any)
  | "put4" =>
    changingBody path [.text, .int .i64, .double, .any] .unit fun h (text, num, real, any, ()) =>
      ({ h.called with text, num, real, any }, ())
  | "put5" =>
    changingBody path [.text, .int .i64, .double, .any, .int .u32] .unit
      fun _ (text, num, real, any, calls, ()) => ({ text, num, real, calls, any }, ())
  | "put6" =>
    changingBody path [.text, .int .i64, .double, .any, .int .u32, .bool] .bool
      fun _ (text, num, real, any, calls, negated, ()) =>
        ({ text, num := if negated then -num else num, real, calls, any }, negated)
  | "drain" => some ⟨hostType path, .exclusive [] fun s () => (Host.toFields {}, .ok s)⟩
  | _ => none

/-- The method whose body goes by a given name. -/
def sampleMethod? (path name : String) (visibility : Visibility) (names : List String)
    (body : String) : Option (Method (hostType path)) :=
  ((reading? path body).orElse fun _ => changing? path body).map fun ⟨result, body⟩ =>
    { name, visibility, names, result, body }

end LateBinding
