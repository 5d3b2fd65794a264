import LateBinding.Value
import LateBinding.Number.Shortest
import LateBinding.Text.Escaped

/-!
# Diagnostic text of values

* `Value.shown` — texts, truth values, numbers of the most common kinds and null are shown with
  their contents, any other datum with its type.
-/

namespace LateBinding

def Value.shown : Value → String
  | null => "Value::Null"
  | boxed (.leaf .text s) => s!"Value::String({quoted s})"
  | boxed (.leaf .literal s) => s!"Value::Str({quoted s})"
  | boxed (.leaf .bool b) => s!"Value::Bool({boolWord b})"
  | boxed (.leaf (.int .i32) n) => s!"Value::I32({n.render})"
  | boxed (.leaf (.int .i64) n) => s!"Value::I64({n.render})"
  | boxed (.leaf .double x) => s!"Value::F64({x.render})"
  | boxed content => s!"Value::Object({content.tag.name})"

end LateBinding
