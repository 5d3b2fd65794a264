import LateBinding.Number.Word

/-!
# Binary floating-point numbers

A floating-point number is kept as what it denotes: not a number, an infinity, a signed zero, or
`± m · 2 ^ e` with `m` odd.  Odd `m` makes the form unique, so two numbers of a format are equal
exactly when they denote the same thing, and a number of a narrow format is *literally* a number
of every wider one.

* `FloatFormat` — precision and exponent width; `single` and `double`;
* `Datum`, `Datum.Fits` — what is denoted, and when a format has it;
* `BinaryFloat f` — the numbers of format `f`;
* `BinaryFloat.settle` — the number `± m · 2 ^ e`, an infinity where the format has none;
* `BinaryFloat.widen` — a number seen in a wider format;
* `BinaryFloat.ofBits`, `BinaryFloat.toBits` — the interchange encoding.
-/

namespace LateBinding

/-- A binary floating-point format. -/
structure FloatFormat where
  /-- Significant bits, the leading one included. -/
  precision : Nat
  exponentBits : Nat
  deriving DecidableEq, Repr

namespace FloatFormat

/-- 32 bits. -/
def single : FloatFormat := ⟨24, 8⟩

/-- 64 bits. -/
def double : FloatFormat := ⟨53, 11⟩

/-- The greatest exponent of a leading bit, which is also the offset of the encoded exponent. -/
def bias (f : FloatFormat) : Nat := Nat.pow 2 (f.exponentBits - 1) - 1

/-- The exponent of the least positive number. -/
def leastExponent (f : FloatFormat) : Int := 2 - f.bias - f.precision

/-- Every number of format `f` is one of format `g`. -/
def Within (f g : FloatFormat) : Prop :=
  f.precision ≤ g.precision ∧ f.bias ≤ g.bias ∧ g.leastExponent ≤ f.leastExponent

instance (f g : FloatFormat) : Decidable (Within f g) :=
  inferInstanceAs (Decidable (_ ∧ _))

theorem single_within_double : single.Within double := by decide

end FloatFormat

/-- What a floating-point number denotes. -/
inductive Datum where
  | nan
  | infinite (negative : Bool)
  | zero (negative : Bool)
  /-- The number `± odd · 2 ^ exponent`. -/
  | finite (negative : Bool) (odd : Nat) (exponent : Int)
  deriving DecidableEq, Repr

/-- Whether format `f` has the datum: the odd part has at most `f.precision` bits, the last bit
does not lie below the least exponent, nor the first one above the greatest. -/
def Datum.Fits (f : FloatFormat) : Datum → Prop
  | .finite _ odd exponent =>
    odd % 2 = 1 ∧ odd < Nat.pow 2 f.precision ∧ f.leastExponent ≤ exponent ∧
      odd.log2 + exponent ≤ f.bias
  | _ => True

instance (f : FloatFormat) : (d : Datum) → Decidable (d.Fits f)
  | .finite _ _ _ => inferInstanceAs (Decidable (_ ∧ _))
  | .nan | .infinite _ | .zero _ => inferInstanceAs (Decidable True)

theorem Datum.Fits.mono {f g : FloatFormat} (h : f.Within g) {d : Datum} (hd : d.Fits f) :
    d.Fits g := by
  cases d with
  | finite s m e =>
    obtain ⟨hodd, hm, he, hl⟩ := hd
    refine ⟨hodd, Nat.lt_of_lt_of_le hm (Nat.pow_le_pow_right (by omega) h.1), ?_, ?_⟩
    · exact Int.le_trans h.2.2 he
    · exact Int.le_trans hl (Int.ofNat_le.mpr h.2.1)
  | _ => trivial

/-- A number of format `f`. -/
@[ext]
structure BinaryFloat (f : FloatFormat) where
  datum : Datum
  fits : datum.Fits f
  deriving DecidableEq

namespace BinaryFloat

variable {f g : FloatFormat}

/-- Not a number. -/
def nan : BinaryFloat f := ⟨.nan, trivial⟩

def infinite (negative : Bool) : BinaryFloat f := ⟨.infinite negative, trivial⟩

def zero (negative : Bool) : BinaryFloat f := ⟨.zero negative, trivial⟩

instance : Inhabited (BinaryFloat f) := ⟨zero false⟩

/-- Move factors of two from `m` to the exponent `e`, at most `steps` of them. -/
def oddForm : Nat → Nat → Int → Nat × Int
  | 0, m, e => (m, e)
  | steps + 1, m, e => if m % 2 = 0 then oddForm steps (m / 2) (e + 1) else (m, e)

/-- The number `± m · 2 ^ e`, or the infinity of that sign when the format has no such number. -/
def settle (f : FloatFormat) (negative : Bool) (m : Nat) (e : Int) : BinaryFloat f :=
  if m = 0 then zero negative
  else
    let (odd, exponent) := oddForm m.log2 m e
    if h : (Datum.finite negative odd exponent).Fits f then ⟨_, h⟩ else infinite negative

/-- The integer `n`; used for integers of at most `f.precision` bits. -/
def ofInt (f : FloatFormat) (n : Int) : BinaryFloat f :=
  settle f (n < 0) n.natAbs 0

/-- The same number in a wider format. -/
def widen (h : f.Within g) (x : BinaryFloat f) : BinaryFloat g :=
  ⟨x.datum, x.fits.mono h⟩

@[simp] theorem datum_widen (h : f.Within g) (x : BinaryFloat f) : (x.widen h).datum = x.datum :=
  rfl

/-! ### The last place -/

/-- The exponent of the last place of a number whose leading bit has exponent `top`. -/
def lastPlace (f : FloatFormat) (top : Int) : Int :=
  max f.leastExponent (top - (f.precision - 1 : Nat))

/-- The number `odd · 2 ^ exponent` as a multiple of its last place: the multiple, then the
exponent of the place. -/
def inLastPlaces (f : FloatFormat) (odd : Nat) (exponent : Int) : Nat × Int :=
  let place := lastPlace f (odd.log2 + exponent)
  (odd * Nat.pow 2 (exponent - place).toNat, place)

/-! ### The interchange encoding -/

/-- Decode the low bits of `n`: sign, encoded exponent, trailing significand. -/
def ofBits (f : FloatFormat) (n : Nat) : BinaryFloat f :=
  let trailing := n % Nat.pow 2 (f.precision - 1)
  let encoded := n / Nat.pow 2 (f.precision - 1) % Nat.pow 2 f.exponentBits
  let negative := n / Nat.pow 2 (f.precision - 1 + f.exponentBits) % 2 = 1
  if encoded = Nat.pow 2 f.exponentBits - 1 then
    if trailing = 0 then infinite negative else nan
  else if encoded = 0 then settle f negative trailing f.leastExponent
  else
    settle f negative (trailing + Nat.pow 2 (f.precision - 1)) (f.leastExponent + (encoded - 1))

/-- Encode; not a number has only its first trailing bit set. -/
def toBits (x : BinaryFloat f) : Nat :=
  let sign (negative : Bool) : Nat :=
    if negative then Nat.pow 2 (f.precision - 1 + f.exponentBits) else 0
  let top := (Nat.pow 2 f.exponentBits - 1) * Nat.pow 2 (f.precision - 1)
  match x.datum with
  | .nan => top + Nat.pow 2 (f.precision - 2)
  | .infinite negative => sign negative + top
  | .zero negative => sign negative
  | .finite negative odd exponent =>
    let (multiple, place) := inLastPlaces f odd exponent
    let encoded := (place - f.leastExponent).toNat * Nat.pow 2 (f.precision - 1)
    sign negative + encoded + multiple

def isNaN (x : BinaryFloat f) : Bool :=
  match x.datum with
  | .nan => true
  | _ => false

end BinaryFloat

abbrev Single := BinaryFloat .single

abbrev Double := BinaryFloat .double

end LateBinding
