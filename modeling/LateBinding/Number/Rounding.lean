import LateBinding.Number.BinaryFloat

/-!
# Floating-point arithmetic

Sums and products are the exact ones, rounded once to the nearest number of the format; of two
equally near numbers the one with an even last place is taken.

* `BinaryFloat.round` — the number of a format nearest to `± m · 2 ^ e`;
* `BinaryFloat.mul`, `BinaryFloat.add` — product and sum.
-/

namespace LateBinding

namespace BinaryFloat

variable {f : FloatFormat}

/-- The integer nearest to `m / 2 ^ shift`, the even one of two. -/
def nearestEven (m shift : Nat) : Nat :=
  let unit := Nat.pow 2 shift
  let quotient := m / unit
  let twice := 2 * (m % unit)
  if unit < twice ∨ (twice = unit ∧ quotient % 2 = 1) then quotient + 1 else quotient

/-- The number nearest to `± m · 2 ^ e`. -/
def round (f : FloatFormat) (negative : Bool) (m : Nat) (e : Int) : BinaryFloat f :=
  let place := lastPlace f (m.log2 + e)
  settle f negative (nearestEven m (place - e).toNat) (max place e)

def mul (x y : BinaryFloat f) : BinaryFloat f :=
  match x.datum, y.datum with
  | .nan, _ | _, .nan | .infinite _, .zero _ | .zero _, .infinite _ => nan
  | .infinite s, .infinite t | .infinite s, .finite t _ _ | .finite s _ _, .infinite t =>
    infinite (s ^^ t)
  | .zero s, .zero t | .zero s, .finite t _ _ | .finite s _ _, .zero t => zero (s ^^ t)
  | .finite s m e, .finite t n d => round f (s ^^ t) (m * n) (e + d)

/-- The integer `± m`. -/
def signed (negative : Bool) (m : Nat) : Int := if negative then -m else m

/-- Sum.  A sum of opposite numbers is the positive zero. -/
def add (x y : BinaryFloat f) : BinaryFloat f :=
  match x.datum, y.datum with
  | .nan, _ | _, .nan => nan
  | .infinite s, .infinite t => if s = t then infinite s else nan
  | .infinite s, _ | _, .infinite s => infinite s
  | .zero s, .zero t => zero (s && t)
  | .zero _, .finite _ _ _ => y
  | .finite _ _ _, .zero _ => x
  | .finite s m e, .finite t n d =>
    let place := min e d
    let sum := signed s (m * Nat.pow 2 (e - place).toNat) +
      signed t (n * Nat.pow 2 (d - place).toNat)
    round f (sum < 0) sum.natAbs place

instance : Mul (BinaryFloat f) := ⟨mul⟩
instance : Add (BinaryFloat f) := ⟨add⟩

end BinaryFloat

end LateBinding
