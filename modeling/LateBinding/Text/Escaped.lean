import LateBinding.Text.CodePoint

/-!
# Escaped text

Text in double quotes, in which every character is either visible or spelled out.

* `Escaped.escape` — the spelling of one character: quotes, backslashes and the common controls
  behind a backslash, all that has no visible form of its own as its code point;
* `quoted` — the text between its quotes.
-/

namespace LateBinding

namespace Escaped

def hexadecimal (n : Nat) : String := String.ofList (Nat.toDigits 16 n)

/-- Whether the character is spelled as its code point. -/
def spelledOut (c : Char) : Bool :=
  if 0x20 ≤ c.toNat && c.toNat < 0x7f then false
  else CodePoint.unprintable.has c.toNat || CodePoint.extending.has c.toNat

def escape (c : Char) : String :=
  match c with
  | '\x00' => "\\0"
  | '\t' => "\\t"
  | '\r' => "\\r"
  | '\n' => "\\n"
  | '\\' => "\\\\"
  | '\"' => "\\\""
  | c => if spelledOut c then "\\u\x7b" ++ hexadecimal c.toNat ++ "\x7d" else c.toString

end Escaped

def quoted (s : String) : String :=
  "\"" ++ String.join (s.toList.map Escaped.escape) ++ "\""

end LateBinding
