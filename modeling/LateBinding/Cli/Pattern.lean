import LateBinding.Cli.Pattern.Expr

/-!
# Patterns

A log filter may ask for a field with a value: a number, or a regular expression.  Here it only
matters which texts are such values.

* `Pattern.isExpression` — the regular expressions: they are not too deep, name no two groups alike,
  and can be matched;
* `Pattern.isNumeral` — the decimal numbers, infinity and not-a-number;
* `Pattern.isValue` — what a field may be asked to be.
-/

namespace LateBinding

namespace Pattern

/-- How deep an expression may be. -/
def depthLimit : Nat := 250

def isExpression (text : List Char) : Bool :=
  match tokens? text with
  | none => false
  | some tokens =>
    (tokens.filterMap Token.name?).Nodup &&
      match Expr.ofTokens? tokens with
      | none => false
      | some e => e.depth ≤ depthLimit && (e.run? {}).isSome

/-! ### Numbers -/

/-- Whether a text is an exponent, or nothing at all. -/
def isExponent : List Char → Bool
  | [] => true
  | e :: rest =>
    let digits := match rest with
      | '+' :: digits | '-' :: digits => digits
      | digits => digits
    (e = 'e' || e = 'E') && digits ≠ [] && digits.all Char.isDigit

/-- Whether a text is a decimal number without a sign, `inf`, `infinity` or `nan`. -/
def isUnsigned (text : List Char) : Bool :=
  let whole := text.takeWhile Char.isDigit
  let (fraction, rest) := match text.dropWhile Char.isDigit with
    | '.' :: rest => (rest.takeWhile Char.isDigit, rest.dropWhile Char.isDigit)
    | rest => ([], rest)
  ((whole ≠ [] || fraction ≠ []) && isExponent rest) ||
    String.ofList (text.map Char.toLower) ∈ ["inf", "infinity", "nan"]

def isNumeral : List Char → Bool
  | '+' :: text | '-' :: text => isUnsigned text
  | text => isUnsigned text

/-- Whether a field may be asked to have the value. -/
def isValue (text : List Char) : Bool := isNumeral text || isExpression text

end Pattern

end LateBinding
