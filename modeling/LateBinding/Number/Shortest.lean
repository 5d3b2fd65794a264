import LateBinding.Number.BinaryFloat

/-!
# Shortest decimal text

A finite number is written with the fewest digits that still read back as it, always positionally:
no exponent, no point after an integer.

The reals that read back as `m · 2 ^ q` reach half a last place up and down, down only a quarter
of one when `m` is the least significand, because the numbers below lie twice as dense; the ends
belong to the interval when `m` is even.  For one digit, two digits, and so on, the two neighbours
of the number on the decimal grid are tried; the first grid with a neighbour in the interval wins,
of two neighbours the nearer, and of two equally near ones the greater.

* `Shortest.Interval` — a number with the ends of its interval, over a common denominator;
* `Shortest.digits` — the digits and the exponent of ten behind them;
* `BinaryFloat.render` — the text.
-/

namespace LateBinding

namespace Shortest

/-- The point `middle / scale` in the interval from `low / scale` to `high / scale`. -/
structure Interval where
  low : Nat
  middle : Nat
  high : Nat
  scale : Nat
  closed : Bool
  deriving Repr

/-- The interval of the reals that read back as `odd · 2 ^ exponent`. -/
def Interval.ofFinite (f : FloatFormat) (odd : Nat) (exponent : Int) : Interval :=
  let (multiple, place) := BinaryFloat.inLastPlaces f odd exponent
  -- the ends are multiples of a quarter of the last place
  let quarter := place - 2
  let factor := Nat.pow 2 quarter.toNat
  let below := if multiple = Nat.pow 2 (f.precision - 1) then 1 else 2
  { low := (4 * multiple - below) * factor
    middle := 4 * multiple * factor
    high := (4 * multiple + 2) * factor
    scale := Nat.pow 2 (-quarter).toNat
    closed := multiple % 2 = 0 }

namespace Interval

/-- Whether `n · 10 ^ k` lies in the interval. -/
def contains (i : Interval) (n : Nat) (k : Int) : Bool :=
  let point := n * Nat.pow 10 k.toNat * i.scale
  let unit := Nat.pow 10 (-k).toNat
  if i.closed then i.low * unit ≤ point && point ≤ i.high * unit
  else i.low * unit < point && point < i.high * unit

/-- The greatest `n` for which `n · 10 ^ k` does not exceed the middle. -/
def floor (i : Interval) (k : Int) : Nat :=
  i.middle * Nat.pow 10 (-k).toNat / (i.scale * Nat.pow 10 k.toNat)

/-- Whether `(n + 1) · 10 ^ k` is at least as near to the middle as `n · 10 ^ k`. -/
def upperNearer (i : Interval) (n : Nat) (k : Int) : Bool :=
  (2 * n + 1) * Nat.pow 10 k.toNat * i.scale ≤ 2 * i.middle * Nat.pow 10 (-k).toNat

/-- The neighbour of the middle on the grid of the multiples of `10 ^ k` that lies in the
interval, if there is one. -/
def gridPoint? (i : Interval) (k : Int) : Option Nat :=
  let n := i.floor k
  match i.contains n k, i.contains (n + 1) k with
  | true, true => some (if i.upperNearer n k then n + 1 else n)
  | true, false => some n
  | false, true => some (n + 1)
  | false, false => none

/-- The least number of zeros, up to `limit`, that stand between the point and the first digit of
the middle, when it is less than one; `zeros` of them are known. -/
def leadingZeros (i : Interval) : (limit zeros : Nat) → Nat
  | 0, zeros => zeros
  | limit + 1, zeros =>
    if i.scale ≤ i.middle * Nat.pow 10 (zeros + 1) then zeros
    else leadingZeros i limit (zeros + 1)

/-- The exponent of ten of the first digit of the middle; `limit` bounds its negative. -/
def firstPlace (i : Interval) (limit : Nat) : Int :=
  if i.scale ≤ i.middle then (Nat.toDigits 10 (i.middle / i.scale)).length - 1
  else -(i.leadingZeros limit 0 + 1 : Nat)

end Interval

/-- Try grids of rising fineness, `tries` of them, starting with the multiples of `10 ^ k`.  The
point found can end in a zero only on the first grid, when it is ten of its units. -/
def search (i : Interval) : (tries : Nat) → (k : Int) → Nat × Int
  | 0, k => (i.floor k, k)
  | tries + 1, k =>
    match i.gridPoint? k with
    | some n => if n % 10 = 0 then (n / 10, k + 1) else (n, k)
    | none => search i tries (k - 1)

/-- The fewest digits that read back as `odd · 2 ^ exponent`, and the exponent of ten of the last
of them.  Seventeen digits suffice for the widest format. -/
def digits (f : FloatFormat) (odd : Nat) (exponent : Int) : Nat × Int :=
  let i := Interval.ofFinite f odd exponent
  search i 17 (i.firstPlace (f.bias + f.precision))

/-- The number `n · 10 ^ k` without an exponent. -/
def positional (n : Nat) (k : Int) : String :=
  if 0 ≤ k then toString (n * Nat.pow 10 k.toNat)
  else
    let places := (-k).toNat
    let fraction := Nat.toDigits 10 (n % Nat.pow 10 places)
    toString (n / Nat.pow 10 places) ++ "." ++
      String.ofList (List.replicate (places - fraction.length) '0' ++ fraction)

end Shortest

/-- The shortest text that reads back as the number. -/
def BinaryFloat.render {f : FloatFormat} (x : BinaryFloat f) : String :=
  let sign (negative : Bool) : String := if negative then "-" else ""
  match x.datum with
  | .nan => "NaN"
  | .infinite negative => sign negative ++ "inf"
  | .zero negative => sign negative ++ "0"
  | .finite negative odd exponent =>
    let (n, k) := Shortest.digits f odd exponent
    sign negative ++ Shortest.positional n k

end LateBinding
