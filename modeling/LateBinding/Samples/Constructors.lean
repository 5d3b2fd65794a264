import LateBinding.Samples.Host
import LateBinding.Member.Constructor

/-!
# Constructors of the sample types

* `sampleConstructor?` — the constructor of a sample type that goes by a given name.  What the
  arguments do not determine has its initial contents.
-/

namespace LateBinding

/-- A constructor that makes an instance in the state computed from the arguments. -/
def constructorOf (path : String) (names : List String) (types : List TypeTag)
    (run : Args types → Host) : Constructor (hostType path) :=
  ⟨names, types, fun args => .ok (run args).toFields⟩

/-- The constructor of this name, with the given parameter names. -/
def sampleConstructor? (path : String) (names : List String) :
    (constructor : String) → Option (Constructor (hostType path))
  | "empty" => some (constructorOf path names [] fun () => {})
  | "text" => some (constructorOf path names [.text] fun (text, ()) => { text })
  | "static" => some (constructorOf path names [.literal] fun (text, ()) => { text })
  | "num" => some (constructorOf path names [.int .i64] fun (num, ()) => { num })
  | "num32" =>
    some (constructorOf path names [.int .i32] fun (n, ()) => { num := .wrap .i64 n.value })
  | "tiny" =>
    some (constructorOf path names [.int .u8] fun (n, ()) => { num := .wrap .i64 n.value })
  | "real" => some (constructorOf path names [.double] fun (real, ()) => { real })
  | "any" => some (constructorOf path names [.any] fun (any, ()) => { any })
  | "copy" => some ⟨names, [hostType path], fun (fields, ()) => .ok fields⟩
  | "two" =>
    some (constructorOf path names [.text, .int .i64] fun (text, num, ()) => { text, num })
  | "three" =>
    some (constructorOf path names [.text, .int .i64, .double] fun (text, num, real, ()) =>
      { text, num, real })
  | "four" =>
    some (constructorOf path names [.text, .int .i64, .double, .any]
      fun (text, num, real, any, ()) => { text, num, real, any })
  | "five" =>
    some (constructorOf path names [.text, .int .i64, .double, .int .u32, .any]
      fun (text, num, real, calls, any, ()) => { text, num, real, calls, any })
  | "six" =>
    some (constructorOf path names [.text, .int .i64, .double, .int .u32, .any, .bool]
      fun (text, num, real, calls, any, negated, ()) =>
        { text, num := if negated then -num else num, real, calls, any })
  | _ => none

end LateBinding
