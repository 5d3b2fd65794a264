/-!
# Fixed-width integers

The integer kinds a value may have, and the integers of one kind.

* `IntKind` — signed and unsigned kinds of 8 to 128 bits, and the two pointer-sized ones, which
  have 64 bits here;
* `Word k` — an integer together with the proof that kind `k` has it;
* `Word.wrap` — the word congruent to any integer modulo `2 ^ k.width`; arithmetic on words is
  integer arithmetic followed by `wrap`;
* `Word.embed` — a word of a kind seen as a word of a kind whose range contains the first one's.
-/

namespace LateBinding

/-- The kinds of fixed-width integers. -/
inductive IntKind where
  | i8 | i16 | i32 | i64 | isize
  | u8 | u16 | u32 | u64 | usize | u128
  deriving DecidableEq, Repr

namespace IntKind

def width : IntKind → Nat
  | .i8 | .u8 => 8
  | .i16 | .u16 => 16
  | .i32 | .u32 => 32
  | .i64 | .u64 | .isize | .usize => 64
  | .u128 => 128

def signed : IntKind → Bool
  | .i8 | .i16 | .i32 | .i64 | .isize => true
  | .u8 | .u16 | .u32 | .u64 | .usize | .u128 => false

/-- The least integer of the kind. -/
def least (k : IntKind) : Int :=
  if k.signed then -Nat.pow 2 (k.width - 1) else 0

/-- The greatest integer of the kind. -/
def greatest (k : IntKind) : Int :=
  if k.signed then Nat.pow 2 (k.width - 1) - 1 else Nat.pow 2 k.width - 1

def name : IntKind → String
  | .i8 => "i8" | .i16 => "i16" | .i32 => "i32" | .i64 => "i64" | .isize => "isize"
  | .u8 => "u8" | .u16 => "u16" | .u32 => "u32" | .u64 => "u64" | .usize => "usize"
  | .u128 => "u128"

def all : List IntKind :=
  [.i8, .i16, .i32, .i64, .isize, .u8, .u16, .u32, .u64, .usize, .u128]

/-- Every integer of kind `j` is one of kind `k`. -/
def Within (j k : IntKind) : Prop :=
  k.least ≤ j.least ∧ j.greatest ≤ k.greatest

instance (j k : IntKind) : Decidable (Within j k) :=
  inferInstanceAs (Decidable (_ ∧ _))

theorem least_le_greatest (k : IntKind) : k.least ≤ k.greatest := by
  cases k <;> decide

theorem Within.refl (k : IntKind) : Within k k :=
  ⟨Int.le_refl _, Int.le_refl _⟩

theorem Within.trans {i j k : IntKind} (h : Within i j) (h' : Within j k) : Within i k :=
  ⟨Int.le_trans h'.1 h.1, Int.le_trans h.2 h'.2⟩

/-- The integer of kind `k` congruent to `n` modulo `2 ^ k.width`. -/
def wrap (k : IntKind) (n : Int) : Int :=
  if k.signed then (n + Nat.pow 2 (k.width - 1)) % Nat.pow 2 k.width - Nat.pow 2 (k.width - 1)
  else n % Nat.pow 2 k.width

theorem wrap_mem (k : IntKind) (n : Int) : k.least ≤ k.wrap n ∧ k.wrap n ≤ k.greatest := by
  cases k <;>
    · simp only [wrap, least, greatest, width, signed, if_true, Bool.false_eq_true, if_false,
        Nat.pow_eq]
      omega

end IntKind

/-- An integer of kind `k`. -/
@[ext]
structure Word (k : IntKind) where
  value : Int
  inRange : k.least ≤ value ∧ value ≤ k.greatest
  deriving DecidableEq

namespace Word

variable {j k : IntKind}

/-- The word congruent to `n`. -/
def wrap (k : IntKind) (n : Int) : Word k :=
  ⟨k.wrap n, k.wrap_mem n⟩

/-- The word `n`, if the kind has it. -/
def ofInt? (k : IntKind) (n : Int) : Option (Word k) :=
  if h : k.least ≤ n ∧ n ≤ k.greatest then some ⟨n, h⟩ else none

instance : Inhabited (Word k) := ⟨wrap k 0⟩

/-- Sum modulo the width. -/
def add (a b : Word k) : Word k := wrap k (a.value + b.value)

/-- Negative modulo the width. -/
def neg (a : Word k) : Word k := wrap k (-a.value)

instance : Add (Word k) := ⟨add⟩
instance : Neg (Word k) := ⟨neg⟩

/-- The same integer as a word of a kind that has every integer of the first kind. -/
def embed (h : j.Within k) (a : Word j) : Word k :=
  ⟨a.value, Int.le_trans h.1 a.inRange.1, Int.le_trans a.inRange.2 h.2⟩

@[simp] theorem value_embed (h : j.Within k) (a : Word j) : (a.embed h).value = a.value := rfl

/-- Decimal digits, with a minus sign in front of a negative integer. -/
def render (a : Word k) : String := toString a.value

end Word

end LateBinding
