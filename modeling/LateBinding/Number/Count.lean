/-!
# Counts

* `readCount?` — reading a natural number of 64 bits in decimal digits.
-/

namespace LateBinding

/-- A natural number below `2 ^ 64` in decimal digits, after an optional plus sign. -/
def readCount? (text : List Char) : Option Nat :=
  let digits := match text with
    | '+' :: digits => digits
    | digits => digits
  if digits ≠ [] && digits.all Char.isDigit then
    let n := digits.foldl (fun n c => 10 * n + (c.toNat - '0'.toNat)) 0
    if n < Nat.pow 2 64 then some n else none
  else none

end LateBinding
