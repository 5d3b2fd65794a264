import Mathlib.Algebra.GroupWithZero.Basic
import Mathlib.Algebra.Order.Field.Rat
import LateBinding.Leaf

/-!
# Meaning: what a datum says, whatever its type

A number is the same number in every type that has it, and so is a text.  This file says what leaf
data denote, and that the widenings between their kinds keep it.

* `Meaning`, `Leaf.denoted?` — not a number, an infinity, a number, or a text; data of other
  kinds denote nothing that another kind has;
* `BinaryFloat.oddForm_spec` — factors of two are moved to the exponent until none is left;
* `Datum.ofInt`, `BinaryFloat.datum_ofInt` — an integer as a floating-point number, the same in
  every format that has it, and `Datum.denoted_ofInt` — it is that integer;
* `Leaf.Widening`, `Leaf.widening?_eq_some_iff` — the ways of widening;
* `Leaf.Widening.keeps` — they keep what is denoted;
* `Leaf.Widening.trans`, `Leaf.Widening.irrefl` — two in a row are one, and none leads back.
-/

namespace LateBinding

/-- What a number or a text says, whatever type it is of.  Both zeros are the number zero. -/
inductive Meaning where
  | nan
  | infinite (negative : Bool)
  | number (q : ℚ)
  | text (characters : List Char)

/-- The number `± m · 2 ^ e`. -/
def scaled (negative : Bool) (m : Nat) (e : Int) : ℚ :=
  ((if negative then -m else m : Int) : ℚ) * 2 ^ e

def Datum.denoted : Datum → Meaning
  | .nan => .nan
  | .infinite negative => .infinite negative
  | .zero _ => .number 0
  | .finite negative odd exponent => .number (scaled negative odd exponent)

/-- What a leaf datum denotes, if it is a number or a text. -/
def Leaf.denoted? : (l : Leaf) → l.Content → Option Meaning
  | .text, s | .literal, s => some (.text s.toList)
  | .char, c => some (.text [c])
  | .int _, n => some (.number n.value)
  | .single, x | .double, x => some x.datum.denoted
  | .bool, _ | .texts, _ => none

/-! ### Integers as floating-point numbers -/

namespace BinaryFloat

variable {f : FloatFormat}

/-- With enough steps all factors of two are moved to the exponent, and the number stays. -/
theorem oddForm_spec {steps m : Nat} (hm : m ≠ 0) (hsteps : m < 2 ^ (steps + 1)) (e : Int) :
    ∃ k : Nat, m = (oddForm steps m e).1 * 2 ^ k ∧ (oddForm steps m e).2 = e + k ∧
      (oddForm steps m e).1 % 2 = 1 := by
  induction steps generalizing m e with
  | zero =>
    obtain rfl : m = 1 := by omega
    exact ⟨0, rfl, (Int.add_zero e).symm, rfl⟩
  | succ steps ih =>
    rw [oddForm]
    by_cases hodd : m % 2 = 0
    · -- one factor is moved by this step, and `k` by the steps that follow
      obtain ⟨k, hk, hexponent, hrest⟩ := ih (m := m / 2) (by omega) (by omega) (e + 1)
      rw [if_pos hodd]
      refine ⟨k + 1, ?_, by omega, hrest⟩
      rw [pow_succ, ← Nat.mul_assoc, ← hk]
      omega
    · rw [if_neg hodd]
      exact ⟨0, (Nat.mul_one m).symm, (Int.add_zero e).symm, by omega⟩

/-- As many steps as the number has bits behind the first are enough. -/
theorem oddForm_log2 {m : Nat} (hm : m ≠ 0) (e : Int) :
    ∃ k : Nat, m = (oddForm m.log2 m e).1 * 2 ^ k ∧ (oddForm m.log2 m e).2 = e + k ∧
      (oddForm m.log2 m e).1 % 2 = 1 := oddForm_spec hm Nat.lt_log2_self e

end BinaryFloat

/-- The integer `n` as a floating-point number. -/
def Datum.ofInt (n : Int) : Datum :=
  if n = 0 then .zero false
  else
    .finite (n < 0) (BinaryFloat.oddForm n.natAbs.log2 n.natAbs 0).1
      (BinaryFloat.oddForm n.natAbs.log2 n.natAbs 0).2

/-- **An integer as a floating-point number is that integer.** -/
theorem Datum.denoted_ofInt (n : Int) : (ofInt n).denoted = .number n := by
  rw [ofInt]
  by_cases hn : n = 0
  · rw [if_pos hn, hn]
    rfl
  · obtain ⟨k, hk, hexponent, -⟩ := BinaryFloat.oddForm_log2 (m := n.natAbs) (by omega) 0
    rw [if_neg hn, denoted, scaled, hexponent, Int.zero_add, zpow_natCast]
    generalize (BinaryFloat.oddForm n.natAbs.log2 n.natAbs 0).1 = odd at hk ⊢
    have habs : (n.natAbs : Int) = odd * 2 ^ k := by
      rw [hk]
      push_cast
      rfl
    have hsigned : (if decide (n < 0) then -odd else odd : Int) * 2 ^ k = n := by
      by_cases hneg : n < 0
      · rw [if_pos (decide_eq_true hneg), neg_mul, ← habs]
        omega
      · rw [if_neg (by simpa using hneg), ← habs]
        omega
    refine congrArg Meaning.number ?_
    exact_mod_cast hsigned

/-- The format has every integer of at most as many bits as its precision. -/
def FloatFormat.HasIntegers (f : FloatFormat) : Prop :=
  f.precision ≤ f.bias + 1 ∧ f.leastExponent ≤ 0

instance (f : FloatFormat) : Decidable f.HasIntegers :=
  inferInstanceAs (Decidable (_ ∧ _))

theorem FloatFormat.single_hasIntegers : single.HasIntegers := by decide

theorem FloatFormat.double_hasIntegers : double.HasIntegers := by decide

/-- What is left of an integer when factors of two are moved out of it fits a format that has it. -/
theorem Datum.fits_of_odd {f : FloatFormat} (hf : f.HasIntegers) {negative : Bool} {odd k : Nat}
    (hodd : odd % 2 = 1) (hlt : odd * 2 ^ k < 2 ^ f.precision) :
    (Datum.finite negative odd k).Fits f := by
  have hle : odd ≤ odd * 2 ^ k := Nat.le_mul_of_pos_right odd (Nat.two_pow_pos k)
  have hpow : 2 ^ (odd.log2 + k) ≤ odd * 2 ^ k := by
    rw [pow_add]
    exact Nat.mul_le_mul_right _ (Nat.log2_self_le (by omega))
  have hbits : odd.log2 + k < f.precision :=
    (Nat.pow_lt_pow_iff_right (by omega)).mp (Nat.lt_of_le_of_lt hpow hlt)
  obtain ⟨hprecision, hleast⟩ := hf
  exact ⟨hodd, Nat.lt_of_le_of_lt hle hlt, by omega, by omega⟩

/-- **An integer is the same number in every format that has it.** -/
theorem BinaryFloat.datum_ofInt {f : FloatFormat} (hf : f.HasIntegers) {n : Int}
    (hn : n.natAbs < 2 ^ f.precision) : (ofInt f n).datum = .ofInt n := by
  rw [ofInt, settle, Datum.ofInt]
  by_cases hzero : n = 0
  · rw [if_pos hzero, if_pos (by omega), hzero]
    rfl
  · obtain ⟨k, hk, hexponent, hodd⟩ := oddForm_log2 (m := n.natAbs) (by omega) 0
    have hfits : (Datum.finite (n < 0) (oddForm n.natAbs.log2 n.natAbs 0).1
        (oddForm n.natAbs.log2 n.natAbs 0).2).Fits f := by
      rw [hexponent, Int.zero_add]
      exact Datum.fits_of_odd hf hodd (hk ▸ hn)
    rw [if_neg hzero, if_neg (by omega)]
    exact congrArg BinaryFloat.datum (dif_pos hfits)

namespace Word

/-- An integer of a kind has at most as many bits as the kind. -/
theorem natAbs_lt {k : IntKind} (a : Word k) : a.value.natAbs < 2 ^ k.width := by
  obtain ⟨n, hn⟩ := a
  cases k <;>
    · simp only [IntKind.least, IntKind.greatest, IntKind.width, IntKind.signed, if_true,
        Bool.false_eq_true, if_false, Nat.pow_eq] at hn ⊢
      omega

end Word

namespace IntKind

variable {i j k : IntKind} {f : FloatFormat}

theorem widensToFloat_iff : j.widensToFloat f ↔ j.wider ≠ [] ∧ j.width ≤ f.precision :=
  decide_eq_true_iff

/-- An integer that is widened to a format keeps its value there. -/
theorem datum_ofInt_of_widensToFloat (hf : f.HasIntegers) (h : j.widensToFloat f) (a : Word j) :
    (BinaryFloat.ofInt f a.value).datum = .ofInt a.value := by
  have hwidth : j.width ≤ f.precision := (widensToFloat_iff.mp h).2
  refine BinaryFloat.datum_ofInt hf (Nat.lt_of_lt_of_le a.natAbs_lt ?_)
  exact Nat.pow_le_pow_right (by omega) hwidth

theorem not_mem_wider_self (k : IntKind) : k ∉ k.wider := by
  cases k <;> decide

theorem mem_wider_trans (h : j ∈ i.wider) (h' : k ∈ j.wider) : k ∈ i.wider := by
  have hclosed : ∀ j ∈ i.wider, ∀ k ∈ j.wider, k ∈ i.wider := by
    cases i <;> decide
  exact hclosed j h k h'

theorem width_le_of_mem_wider (h : k ∈ j.wider) : j.width ≤ k.width := by
  have hwider : ∀ k ∈ j.wider, j.width ≤ k.width := by
    cases j <;> decide
  exact hwider k h

theorem widensToFloat_of_mem_wider (h : j ∈ i.wider) (h' : j.widensToFloat f) :
    i.widensToFloat f := by
  have hne : i.wider ≠ [] := List.ne_nil_of_mem h
  have hwidth : i.width ≤ j.width := width_le_of_mem_wider h
  exact widensToFloat_iff.mpr ⟨hne, Nat.le_trans hwidth (widensToFloat_iff.mp h').2⟩

theorem widensToFloat_mono {g : FloatFormat} (hfg : f.Within g) (h : j.widensToFloat f) :
    j.widensToFloat g := by
  obtain ⟨hne, hwidth⟩ := widensToFloat_iff.mp h
  exact widensToFloat_iff.mpr ⟨hne, Nat.le_trans hwidth hfg.1⟩

/-- **It does not matter whether an integer goes to a wide format by way of a narrow one.** -/
theorem widen_ofInt {g : FloatFormat} (hf : f.HasIntegers) (hg : g.HasIntegers) (hfg : f.Within g)
    (h : j.widensToFloat f) (a : Word j) :
    (BinaryFloat.ofInt f a.value).widen hfg = .ofInt g a.value := by
  refine BinaryFloat.ext ?_
  rw [BinaryFloat.datum_widen, datum_ofInt_of_widensToFloat hf h,
    datum_ofInt_of_widensToFloat hg (widensToFloat_mono hfg h)]

end IntKind

/-! ### The ways of widening -/

namespace Leaf

/-- The ways of widening a datum: to an integer kind or a floating-point format that has all numbers
of the first kind, or to a text. -/
inductive Widening : (a b : Leaf) → (a.Content → b.Content) → Prop
  | int {j k : IntKind} (h : k ∈ j.wider) :
    Widening (.int j) (.int k) (Word.embed (IntKind.within_of_mem_wider h))
  | toSingle {j : IntKind} (h : j.widensToFloat .single) :
    Widening (.int j) .single fun n => .ofInt .single n.value
  | toDouble {j : IntKind} (h : j.widensToFloat .double) :
    Widening (.int j) .double fun n => .ofInt .double n.value
  | float : Widening .single .double (BinaryFloat.widen FloatFormat.single_within_double)
  | literal : Widening .literal .text id
  | char : Widening .char .text String.singleton

variable {a b c : Leaf}

/-- **There are no other ways.** -/
theorem widening?_eq_some_iff {widen : a.Content → b.Content} :
    widening? a b = some widen ↔ Widening a b widen := by
  constructor
  · intro h
    unfold widening? at h
    split at h
    · split at h <;> cases h
      exact .int ‹_›
    · split at h <;> cases h
      exact .toSingle ‹_›
    · split at h <;> cases h
      exact .toDouble ‹_›
    · cases h
      exact .float
    · cases h
      exact .literal
    · cases h
      exact .char
    · cases h
  · intro h
    cases h with
    | int h => exact dif_pos h
    | toSingle h => exact if_pos h
    | toDouble h => exact if_pos h
    | float | literal | char => rfl

/-- **Every way of widening keeps the number or the text.** -/
theorem Widening.keeps {widen : a.Content → b.Content} (h : Widening a b widen) (x : a.Content) :
    ∃ d, a.denoted? x = some d ∧ b.denoted? (widen x) = some d := by
  cases h with
  | int h => exact ⟨_, rfl, rfl⟩
  | toSingle h =>
    have hdatum := IntKind.datum_ofInt_of_widensToFloat FloatFormat.single_hasIntegers h x
    refine ⟨_, rfl, ?_⟩
    rw [denoted?, hdatum, Datum.denoted_ofInt]
  | toDouble h =>
    have hdatum := IntKind.datum_ofInt_of_widensToFloat FloatFormat.double_hasIntegers h x
    refine ⟨_, rfl, ?_⟩
    rw [denoted?, hdatum, Datum.denoted_ofInt]
  | float => exact ⟨_, rfl, rfl⟩
  | literal => exact ⟨_, rfl, rfl⟩
  | char => exact ⟨_, rfl, congrArg (fun s => some (Meaning.text s)) (String.toList_singleton x)⟩

/-- **Two ways in a row are one.** -/
theorem Widening.trans {first : a.Content → b.Content} {second : b.Content → c.Content}
    (h : Widening a b first) (h' : Widening b c second) : Widening a c (second ∘ first) := by
  cases h with
  | int h =>
    cases h' with
    | int h' => exact .int (IntKind.mem_wider_trans h h')
    | toSingle h' => exact .toSingle (IntKind.widensToFloat_of_mem_wider h h')
    | toDouble h' => exact .toDouble (IntKind.widensToFloat_of_mem_wider h h')
  | toSingle h =>
    cases h' with
    | float =>
      -- by way of the narrow format the integer gets to the number that it is in the wide one
      have h' := IntKind.widensToFloat_mono FloatFormat.single_within_double h
      have hsame := funext (IntKind.widen_ofInt FloatFormat.single_hasIntegers
        FloatFormat.double_hasIntegers FloatFormat.single_within_double h)
      have hdouble := Widening.toDouble h'
      rw [← hsame] at hdouble
      exact hdouble
  | toDouble h => cases h'
  | float => cases h'
  | literal => cases h'
  | char => cases h'

/-- No way leads back to where it started. -/
theorem Widening.irrefl {widen : a.Content → a.Content} : ¬ Widening a a widen := by
  intro h
  cases h with
  | int h => exact IntKind.not_mem_wider_self _ h

end Leaf

end LateBinding
