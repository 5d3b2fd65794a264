import LateBinding.Proofs.Meaning
import LateBinding.Proofs.Sharing

/-!
# Coherence: coercion loses nothing, and does not depend on the way

A value that is coerced keeps what it says, and a value that is coerced step by step, to any number
of types one after the other, could have been coerced to the last of them at once.

* `Value.denoted?` — the number or the text that a value says;
* `Content.widen?_cases`, `Value.coerce_cases` — what a successful coercion did: the value serves as
  it is, or its datum was widened;
* `Content.widen?_trans`, `Value.coerce_trans`, `Value.coerce_of_coerceAlong` — two widenings, two
  coercions, and chains of coercions;
* `TypeTag.widens_trans`, `TypeTag.not_transGen_widens` — the widenings between types;
* `Value.Lossless` — a value and what it was coerced to;
* `Pool.Coerces`, `Pool.Owned.coerces` — the same of a variable, whose datum is shared if it serves
  as it is and new if not;
* `coercion_lossless` — all of it.
-/

namespace LateBinding

/-! ### Widened data -/

namespace Content

variable {ν : Type} {S T U : TypeTag} {c c' c'' : Content ν}

/-- What a boxed datum denotes, if it is a number or a text. -/
def denoted? : Content ν → Option Meaning
  | leaf l datum => l.denoted? datum
  | optional _ | record _ _ => none

/-- **A datum is widened in one of the ways in which leaf data are.** -/
theorem widen?_cases (h : c.widen? T = some c') :
    ∃ (a b : Leaf) (widen : a.Content → b.Content) (datum : a.Content), Leaf.Widening a b widen ∧
      c = leaf a datum ∧ T = .leaf b ∧ c' = leaf b (widen datum) := by
  cases c with
  | optional _ => cases h
  | record _ _ => cases h
  | leaf a datum =>
    cases T with
    | leaf b =>
      obtain ⟨widen, hwiden, rfl⟩ := Option.map_eq_some_iff.mp h
      exact ⟨a, b, widen, datum, Leaf.widening?_eq_some_iff.mp hwiden, rfl, rfl, rfl⟩
    | any | unit | object | optional | record => cases h

theorem widen?_leaf {a b : Leaf} {widen : a.Content → b.Content} (h : Leaf.Widening a b widen)
    (datum : a.Content) :
    (leaf a datum : Content ν).widen? (.leaf b) = some (leaf b (widen datum)) := by
  rw [widen?, Leaf.widening?_eq_some_iff.mpr h]
  rfl

/-- A widened datum says the same. -/
theorem denoted?_widen? (h : c.widen? T = some c') :
    ∃ d, c.denoted? = some d ∧ c'.denoted? = some d := by
  obtain ⟨a, b, widen, datum, hwiden, rfl, rfl, rfl⟩ := widen?_cases h
  exact hwiden.keeps datum

/-- **To widen a datum twice is to widen it once.** -/
theorem widen?_trans (h : c.widen? T = some c') (h' : c'.widen? U = some c'') :
    c.widen? U = some c'' := by
  obtain ⟨a, b, first, datum, hfirst, rfl, rfl, rfl⟩ := widen?_cases h
  obtain ⟨_, b', second, _, hsecond, hdatum, rfl, rfl⟩ := widen?_cases h'
  cases hdatum
  exact widen?_leaf (hfirst.trans hsecond) datum

/-- No datum is widened to its own type. -/
theorem widen?_tag (c : Content ν) : c.widen? c.tag = none := by
  cases h : c.widen? c.tag with
  | none => rfl
  | some c' =>
    obtain ⟨a, b, widen, datum, hwiden, rfl, hb, -⟩ := widen?_cases h
    cases hb
    exact absurd hwiden Leaf.Widening.irrefl

end Content

/-! ### Coerced values -/

namespace Value

variable {S T U : TypeTag} {v w x : Value}

/-- The number or the text that a value says, if it is one. -/
def denoted? (v : Value) : Option Meaning := v.content?.bind Content.denoted?

/-- Whether a value serves as it is where type `T` is asked for. -/
def Serves (T : TypeTag) (v : Value) : Prop := T = .any ∨ v.tag? = some T

theorem retyped?_of_serves (h : v.Serves T) : v.retyped? T = some .kept := by
  rcases h with rfl | h
  · rfl
  · obtain ⟨c, hc, rfl⟩ := Option.map_eq_some_iff.mp h
    simp only [retyped?, hc, retype, if_true, ite_self]

theorem retyped?_of_widen? {c c' : Content Value} (h : c.widen? T = some c') :
    (boxed c).retyped? T = some (.fresh c') := by
  have hne : T ≠ .any := by
    obtain ⟨_, _, _, _, -, -, rfl, -⟩ := Content.widen?_cases h
    exact nofun
  have htag : c.tag ≠ T := by
    rintro rfl
    rw [c.widen?_tag] at h
    cases h
  simp only [retyped?, content?, retype, if_neg hne, if_neg htag, h, Option.map_some]

theorem coerce_of_widen? {c c' : Content Value} (h : c.widen? T = some c') :
    (boxed c).coerce T = some (boxed c') := by
  rw [coerce, retyped?_of_widen? h]
  rfl

/-- **A value that is coerced serves as it is, or its datum is widened.** -/
theorem coerce_cases (h : v.coerce T = some w) :
    v.Serves T ∧ w = v ∨
      ¬ v.Serves T ∧ ∃ c c', v = boxed c ∧ c.widen? T = some c' ∧ w = boxed c' := by
  by_cases hserves : v.Serves T
  · rw [coerce, retyped?_of_serves hserves] at h
    cases h
    exact .inl ⟨hserves, rfl⟩
  · obtain ⟨hne, htag⟩ := not_or.mp hserves
    cases v with
    | null => rw [coerce_null hne] at h; cases h
    | boxed c =>
      have htag : c.tag ≠ T := fun heq => htag (congrArg some heq)
      simp only [coerce, retyped?, content?, retype, if_neg hne, if_neg htag, Option.map_map] at h
      obtain ⟨c', hc', rfl⟩ := Option.map_eq_some_iff.mp h
      exact .inr ⟨hserves, c, c', rfl, hc', rfl⟩

/-- **Two coercions in a row are one**, unless the second is to the type of all values, where
nothing is coerced. -/
theorem coerce_trans (h : v.coerce T = some w) (h' : w.coerce U = some x) (hU : U ≠ .any) :
    v.coerce U = some x := by
  obtain ⟨-, rfl⟩ | ⟨-, c, c', rfl, hwiden, rfl⟩ := coerce_cases h
  · exact h'
  · obtain ⟨hserves, rfl⟩ | ⟨-, _, c'', hc', hwiden', rfl⟩ := coerce_cases h'
    · have htag : c'.tag = U := Option.some.inj (hserves.resolve_left hU)
      rw [← htag, Content.tag_widen? hwiden]
      exact h
    · cases hc'
      exact coerce_of_widen? (Content.widen?_trans hwiden hwiden')

/-- A coerced value serves as it is. -/
theorem serves_of_coerce (h : v.coerce T = some w) : w.Serves T := by
  by_cases hT : T = .any
  · exact .inl hT
  · exact .inr (tag?_coerce h hT)

theorem coerce_of_serves (h : v.Serves T) : v.coerce T = some v := by
  rw [coerce, retyped?_of_serves h]
  rfl

/-- Coerce to one type after the other. -/
def coerceAlong (v : Value) : List TypeTag → Option Value
  | [] => some v
  | T :: chain => (v.coerce T).bind (coerceAlong · chain)

/-- **The way does not matter.**  By induction on the chain: its first step is taken together with
the one coercion that the rest of the chain amounts to. -/
theorem coerce_of_coerceAlong (hT : T ≠ .any) :
    ∀ {chain : List TypeTag} {v w : Value}, v.coerceAlong (chain ++ [T]) = some w →
      v.coerce T = some w := by
  intro chain
  induction chain with
  | nil =>
    intro v w h
    obtain ⟨x, hx, hw⟩ := Option.bind_eq_some_iff.mp h
    cases hw
    exact hx
  | cons S chain ih =>
    intro v w h
    obtain ⟨x, hx, hrest⟩ := Option.bind_eq_some_iff.mp h
    exact coerce_trans hx (ih hrest) hT

/-- What a value is and what it was coerced to: the value itself, or a new datum that says the
same. -/
structure Lossless (T : TypeTag) (v w : Value) : Prop where
  kept : v.Serves T → v.retyped? T = some .kept ∧ w = v
  fresh : ¬ v.Serves T → (∃ c, v.retyped? T = some (.fresh c) ∧ w = boxed c) ∧ w.tag? = some T ∧
    ∃ d, v.denoted? = some d ∧ w.denoted? = some d

theorem lossless_of_coerce (h : v.coerce T = some w) : v.Lossless T w := by
  obtain ⟨hserves, rfl⟩ | ⟨hserves, c, c', rfl, hwiden, rfl⟩ := coerce_cases h
  · exact ⟨fun _ => ⟨retyped?_of_serves hserves, rfl⟩, fun hnot => absurd hserves hnot⟩
  · refine ⟨fun hserves' => absurd hserves' hserves, fun _ => ⟨⟨c', ?_, rfl⟩, ?_, ?_⟩⟩
    · exact retyped?_of_widen? hwiden
    · exact congrArg some (Content.tag_widen? hwiden)
    · exact Content.denoted?_widen? hwiden

end Value

/-! ### Widenings between types -/

namespace TypeTag

variable {S T U : TypeTag}

theorem widens_iff : S.widens T ↔
    ∃ (a b : Leaf) (widen : a.Content → b.Content), S = .leaf a ∧ T = .leaf b ∧
      Leaf.Widening a b widen := by
  constructor
  · intro h
    cases S with
    | leaf a =>
      cases T with
      | leaf b =>
        obtain ⟨widen, hwiden⟩ := Option.isSome_iff_exists.mp h
        exact ⟨a, b, widen, rfl, rfl, Leaf.widening?_eq_some_iff.mp hwiden⟩
      | any | unit | object | optional | record => cases h
    | any | unit | object | optional | record => cases h
  · rintro ⟨a, b, widen, rfl, rfl, hwiden⟩
    exact Option.isSome_iff_exists.mpr ⟨widen, Leaf.widening?_eq_some_iff.mpr hwiden⟩

theorem widens_trans (h : S.widens T) (h' : T.widens U) : S.widens U := by
  obtain ⟨a, b, first, rfl, rfl, hfirst⟩ := widens_iff.mp h
  obtain ⟨_, c, second, hb, rfl, hsecond⟩ := widens_iff.mp h'
  cases hb
  exact widens_iff.mpr ⟨a, c, _, rfl, rfl, hfirst.trans hsecond⟩

theorem not_widens_self (T : TypeTag) : ¬ T.widens T := by
  intro h
  obtain ⟨a, b, widen, rfl, hb, hwiden⟩ := widens_iff.mp h
  cases hb
  exact Leaf.Widening.irrefl hwiden

/-- **No sequence of widenings leads back to a type it left.** -/
theorem not_transGen_widens (T : TypeTag) : ¬ Relation.TransGen (fun S T => S.widens T) T T := by
  have htrans : IsTrans TypeTag fun S T => S.widens T := ⟨fun _ _ _ => widens_trans⟩
  rw [Relation.transGen_eq_self]
  exact T.not_widens_self

end TypeTag

/-! ### Coerced variables -/

namespace Pool

variable {p : Pool} {T : TypeTag} {source target : String} {w : Value}

/-- A variable is bound to the datum of another, coerced.  The two share it if it serves as it is;
if not, it stands at an address that nothing stood at. -/
structure Coerces (p : Pool) (T : TypeTag) (source target : String) (w : Value) : Prop where
  outcome_eq : (p.step (.coerce T source target)).1 = .coerced (some w)
  view_eq : (p.step (.coerce T source target)).2.view target = w
  kept : (p.view source).Serves T →
    (p.step (.coerce T source target)).2.ref target = p.ref source
  fresh : ¬ (p.view source).Serves T → ∃ a,
    (p.step (.coerce T source target)).2.ref target = some a ∧ ¬ p.store.Live a

namespace Owned

/-- What a step leaves at a variable is what the ledger says. -/
theorem view_step (h : p.Owned) (step : Step) (name : String) :
    (p.step step).2.view name = ((p.ledger.step step).2.value name).plain := by
  rw [view_eq_plain, (h.step step).ledger_eq]

theorem ref_step (h : p.Owned) (step : Step) (name : String) :
    (p.step step).2.ref name = ((p.ledger.step step).2.value name).stamp? := by
  have howned := (h.step step).owned
  rw [← howned.stamp?_value, ← value_ledger, (h.step step).ledger_eq]

/-- **A variable that is coerced shares the datum if it serves as it is**, and is bound to a new one
if not. -/
theorem coerces (h : p.Owned) (target : String) (hw : (p.view source).coerce T = some w) :
    p.Coerces T source target w := by
  have hlossless := Value.lossless_of_coerce hw
  have hretyped := p.retyped?_view T source
  have houtcome := (h.step (.coerce T source target)).outcome_eq
  have hview := h.view_step (.coerce T source target) target
  have href := h.ref_step (.coerce T source target) target
  rw [Ledger.step] at houtcome hview href
  rw [Value.coerce, hretyped] at hw
  cases hretype : retype T (p.ledger.value source).content? with
  | none => rw [hretype] at hw; cases hw
  | some retyped =>
    rw [hretype] at hw hretyped
    simp only [hretype] at houtcome hview href
    cases retyped with
    | kept =>
      cases hw
      rw [Ledger.value_assign_self] at hview href
      rw [← view_eq_plain] at houtcome hview
      rw [value_ledger, h.stamp?_value] at href
      refine ⟨houtcome, hview, fun _ => href, fun hnot => ?_⟩
      obtain ⟨⟨c, hc, -⟩, -⟩ := hlossless.fresh hnot
      rw [hretyped] at hc
      cases hc
    | fresh content =>
      cases hw
      have hplain := Stamped.plain_boxed p.ledger.next content
      rw [Ledger.value_assign_self] at hview href
      refine ⟨houtcome.trans (congrArg (fun v => Outcome.coerced (some v)) hplain),
        hview.trans hplain, fun hserves => ?_, fun _ => ⟨_, href, ?_⟩⟩
      · have hkept := (hlossless.kept hserves).1
        rw [hretyped] at hkept
        cases hkept
      · rintro ⟨cell, hcell⟩
        exact Nat.lt_irrefl _ (Store.lt_of_cell? hcell)

end Owned

end Pool

/-- **Coercion loses nothing, and does not depend on the way.**  A value that is coerced serves as
it is, if any value does or if it is of the type already; else a new datum of the type is made that
says the same number or the same text.  A variable shares its datum in the first case, and stands at
a new address in the second.  A value that is coerced to one type after the other, the last not that
of all values, is coerced to the last at once, to the same value; so what was coerced is coerced to
itself, two widenings in a row are a widening, and none leads back to a type that was left. -/
theorem coercion_lossless :
    (∀ (v : Value) (T : TypeTag) (w : Value), v.coerce T = some w → v.Lossless T w) ∧
    (∀ (ops : List Pool.Op) (T : TypeTag) (source target : String) (w : Value),
      ((Pool.after ops).view source).coerce T = some w →
        (Pool.after ops).Coerces T source target w) ∧
    (∀ (v : Value) (chain : List TypeTag) (T : TypeTag) (w : Value), T ≠ .any →
      v.coerceAlong (chain ++ [T]) = some w → v.coerce T = some w) ∧
    (∀ (v : Value) (T : TypeTag) (w : Value), v.coerce T = some w → w.coerce T = some w ∧
      w.retyped? T = some .kept) ∧
    (∀ S T U : TypeTag, S.widens T → T.widens U → S.widens U) ∧
    ∀ T : TypeTag, ¬ Relation.TransGen (fun S T => S.widens T) T T := by
  refine ⟨fun v T w h => Value.lossless_of_coerce h, ?_, ?_, ?_, ?_, TypeTag.not_transGen_widens⟩
  · intro ops T source target w h
    exact (Pool.owned_after ops).1.coerces target h
  · intro v chain T w hT h
    exact Value.coerce_of_coerceAlong hT h
  · intro v T w h
    have hkept := Value.retyped?_of_serves (Value.serves_of_coerce h)
    exact ⟨by rw [Value.coerce, hkept]; rfl, hkept⟩
  · intro S T U h h'
    exact TypeTag.widens_trans h h'

/-- A small number goes through integers, floating-point numbers and the type of all values, and
could have gone to the last type at once. -/
theorem coercion_lossless_chain :
    (Value.ofCarrier (.int .u8) (Word.wrap .u8 200)).coerceAlong
        ([TypeTag.int .i16, TypeTag.any, TypeTag.single, TypeTag.any] ++ [TypeTag.double]) =
      some (Value.ofCarrier .double (BinaryFloat.ofInt .double 200)) ∧
    (Value.ofCarrier (.int .u8) (Word.wrap .u8 200)).coerce .double =
      some (Value.ofCarrier .double (BinaryFloat.ofInt .double 200)) := by
  have hchain : (Value.ofCarrier (.int .u8) (Word.wrap .u8 200)).coerceAlong
      ([TypeTag.int .i16, TypeTag.any, TypeTag.single, TypeTag.any] ++ [TypeTag.double]) =
        some (Value.ofCarrier .double (BinaryFloat.ofInt .double 200)) := rfl
  obtain ⟨-, -, hway, -⟩ := coercion_lossless
  exact ⟨hchain, hway _ _ _ _ nofun hchain⟩

end LateBinding
