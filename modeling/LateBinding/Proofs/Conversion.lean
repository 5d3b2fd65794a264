import LateBinding.Value.Reading
import LateBinding.Plan.Slot
import LateBinding.Call

/-!
# Conversion: what a coerced value can be read as

A declared type enters a call three times: the value is coerced to it, the check of a slot is made
from it, and the datum is read out at it.  This file ties the three together.

* `Value.tag?_coerce` — a coerced value is of the type it was coerced to, unless that is the type
  of all values;
* `Value.isSome_coerce` — whether a value is coerced is decided by its type alone;
* `Value.fromExact?_coerce` — a coerced value can be read at the type it was coerced to;
* `Value.coerce_of_fromExact?` — what can be read exactly is coerced to itself;
* `Value.converted?` — the datum that a value is converted to, with its relation to the readers of
  a frame (`Value.fromValue_of_coerce`) and of the caller's container
  (`Value.converted?_of_fromExact?`);
* `Value.ofCarrier_of_fromExact?`, `Value.fromExact?_ofCarrier` — boxing undoes reading, and reading
  undoes boxing;
* `Check.target`, `Check.retype_eq` — a check takes the decision of the coercion to one type;
* `Check.apply_ofType` — the check for a declared type is the conversion of a reflective call.
-/

namespace LateBinding

/-! ### The type of a datum -/

namespace Content

/-- A datum can be read at its own type, and boxed again. -/
theorem exists_as?_tag (c : Content Value) :
    ∃ x, c.as? c.tag = some x ∧ Value.ofCarrier c.tag x = .boxed c := by
  cases c with
  | leaf l datum => exact ⟨datum, by simp [Content.as?, Content.tag], rfl⟩
  | optional value? => exact ⟨value?, rfl, rfl⟩
  | record path fields => exact ⟨fields, by simp [Content.as?, Content.tag], rfl⟩

theorem as?_tag (c : Content Value) : ∃ x, c.as? c.tag = some x := by
  obtain ⟨x, hx, -⟩ := c.exists_as?_tag
  exact ⟨x, hx⟩

/-- A datum is read at no other type than its own. -/
theorem tag_of_as? {T : TypeTag} {c : Content Value} {x : T.Carrier} (h : c.as? T = some x) :
    c.tag = T := by
  cases T <;> cases c <;> simp only [Content.as?, reduceCtorEq, Option.dite_none_right_eq_some,
    Option.ite_none_right_eq_some] at h
  · obtain ⟨rfl, -⟩ := h
    rfl
  · rfl
  · obtain ⟨rfl, -⟩ := h
    rfl

/-- A widened datum is of the type it was widened to. -/
theorem tag_widen? {T : TypeTag} {c c' : Content Value} (h : c.widen? T = some c') :
    c'.tag = T := by
  cases c with
  | leaf a datum =>
    cases T with
    | leaf b =>
      simp only [Content.widen?, Option.map_eq_some_iff] at h
      obtain ⟨widening, -, rfl⟩ := h
      rfl
    | any | unit | object | optional | record => simp [Content.widen?] at h
  | optional | record => simp [Content.widen?] at h

theorem isSome_widen? (T : TypeTag) (c : Content Value) : (c.widen? T).isSome = c.tag.widens T := by
  cases c with
  | leaf a datum => cases T <;> simp [Content.widen?, Content.tag, TypeTag.widens, Leaf.widens]
  | optional | record => cases T <;> rfl

end Content

/-! ### Coercion -/

namespace Value

theorem coerce_of_tag? {T : TypeTag} {v : Value} (h : v.tag? = some T) : v.coerce T = some v := by
  obtain ⟨c, hc, rfl⟩ := Option.map_eq_some_iff.mp h
  simp only [coerce, retyped?, hc, retype, if_true]
  split <;> rfl

theorem coerce_null {T : TypeTag} (hT : T ≠ .any) : null.coerce T = none := by
  simp only [coerce, retyped?, content?, retype, if_neg hT, Option.map_none]

/-- **A coerced value is of the type it was coerced to**, unless that is the type of all values. -/
theorem tag?_coerce {T : TypeTag} {v w : Value} (h : v.coerce T = some w) (hT : T ≠ .any) :
    w.tag? = some T := by
  cases v with
  | null => rw [coerce_null hT] at h; cases h
  | boxed c =>
    simp only [coerce, retyped?, content?, retype, if_neg hT] at h
    by_cases hc : c.tag = T
    · rw [if_pos hc] at h
      simp only [Option.map_some, Retyped.on, Option.some.injEq] at h
      rw [← h, ← hc]
      rfl
    · rw [if_neg hc, Option.map_map, Option.map_eq_some_iff] at h
      obtain ⟨c', hc', rfl⟩ := h
      show some c'.tag = some T
      rw [Content.tag_widen? hc']

/-- **Whether a value is coerced is decided by its type**, and null is coerced to no type but that
of all values. -/
theorem isSome_coerce (T : TypeTag) (v : Value) :
    (v.coerce T).isSome =
      match v.tag? with
      | some tag => T.accepts tag
      | none => T = .any := by
  by_cases hT : T = .any
  · subst hT
    cases v <;> rfl
  · cases v with
    | null =>
      rw [coerce_null hT]
      exact (decide_eq_false hT).symm
    | boxed c =>
      show _ = T.accepts c.tag
      rw [TypeTag.accepts, decide_eq_false hT, Bool.false_or, ← c.isSome_widen?]
      simp only [coerce, retyped?, content?, retype, if_neg hT, Option.isSome_map]
      by_cases hc : c.tag = T
      · simp only [if_pos hc, decide_eq_true hc, Option.isSome_some, Bool.true_or]
      · simp only [if_neg hc, decide_eq_false hc, Option.isSome_map, Bool.false_or]

/-! ### Reading -/

theorem fromValue_of_ne_any {T : TypeTag} (hT : T ≠ .any) (v : Value) :
    v.fromValue T = v.extract T := by
  cases T <;> first | rfl | exact absurd rfl hT

theorem fromExact?_of_ne_any {T : TypeTag} (hT : T ≠ .any) (v : Value) :
    v.fromExact? T = v.downcast? T := by
  cases T <;> first | rfl | exact absurd rfl hT

/-- Giving a value up for its datum fails where copying the datum does, and gives the same. -/
theorem intoInner_eq_extract (T : TypeTag) (v : Value) : v.intoInner T = v.extract T := by
  cases v with
  | null => rfl
  | boxed content =>
    rw [intoInner, extract, downcast?, content?, Option.bind_some, Content.taken]
    cases content.as? T <;> rfl

theorem takeValue_eq_fromValue (T : TypeTag) (v : Value) : v.takeValue T = v.fromValue T := by
  by_cases hT : T = .any
  · subst hT
    rfl
  · have htake : v.takeValue T = v.intoInner T := by
      cases T <;> first | rfl | exact absurd rfl hT
    rw [htake, intoInner_eq_extract, fromValue_of_ne_any hT]

/-- The two readers agree on what they read. -/
theorem fromValue_eq_ok_iff {T : TypeTag} {v : Value} {x : T.Carrier} :
    v.fromValue T = .ok x ↔ v.fromExact? T = some x := by
  by_cases hT : T = .any
  · subst hT
    simp only [fromValue, fromExact?, Except.ok.injEq, Option.some.injEq]
  · rw [fromValue_of_ne_any hT, fromExact?_of_ne_any hT, extract]
    cases v.downcast? T <;> simp

theorem fromExact?_of_tag? {T : TypeTag} {v : Value} (h : v.tag? = some T) :
    ∃ x, v.fromExact? T = some x := by
  obtain ⟨c, hc, rfl⟩ := Option.map_eq_some_iff.mp h
  obtain ⟨x, hx⟩ := c.as?_tag
  have hT : c.tag ≠ .any := by cases c <;> simp [Content.tag]
  refine ⟨x, ?_⟩
  rw [fromExact?_of_ne_any hT, downcast?, hc]
  exact hx

/-- What can be read exactly is of the type asked for, unless that is the type of all values. -/
theorem tag?_of_fromExact? {T : TypeTag} {v : Value} {x : T.Carrier} (h : v.fromExact? T = some x)
    (hT : T ≠ .any) : v.tag? = some T := by
  rw [fromExact?_of_ne_any hT, downcast?, Option.bind_eq_some_iff] at h
  obtain ⟨c, hc, hx⟩ := h
  rw [tag?, hc, Option.map_some, Content.tag_of_as? hx]

/-- What can be read exactly is coerced to itself. -/
theorem coerce_of_fromExact? {T : TypeTag} {v : Value} {x : T.Carrier}
    (h : v.fromExact? T = some x) : v.coerce T = some v := by
  by_cases hT : T = .any
  · subst hT
    rfl
  · exact coerce_of_tag? (tag?_of_fromExact? h hT)

theorem fromExact?_coerce {T : TypeTag} {v w : Value} (h : v.coerce T = some w) :
    ∃ x, w.fromExact? T = some x := by
  by_cases hT : T = .any
  · subst hT
    exact ⟨w, rfl⟩
  · exact fromExact?_of_tag? (tag?_coerce h hT)

/-! ### The datum a value is converted to -/

/-- The datum of type `T` that a value is converted to, if it converts. -/
def converted? (T : TypeTag) (v : Value) : Option T.Carrier := (v.coerce T).bind (fromExact? T)

theorem converted?_eq_none_iff {T : TypeTag} {v : Value} :
    v.converted? T = none ↔ v.coerce T = none := by
  cases h : v.coerce T with
  | none => simp [converted?, h]
  | some w =>
    obtain ⟨x, hx⟩ := fromExact?_coerce h
    simp [converted?, h, hx]

/-- What is read from the frame is what the argument is converted to. -/
theorem fromValue_of_coerce {T : TypeTag} {v w : Value} (h : v.coerce T = some w) :
    ∃ x, v.converted? T = some x ∧ w.fromValue T = .ok x := by
  obtain ⟨x, hx⟩ := fromExact?_coerce h
  exact ⟨x, by rw [converted?, h, Option.bind_some, hx], fromValue_eq_ok_iff.mpr hx⟩

/-- What is read in place is what the argument is converted to. -/
theorem converted?_of_fromExact? {T : TypeTag} {v : Value} {x : T.Carrier}
    (h : v.fromExact? T = some x) : v.converted? T = some x := by
  rw [converted?, coerce_of_fromExact? h, Option.bind_some, h]

/-! ### Boxing -/

/-- **What is read exactly is boxed to the value it was read from.** -/
theorem ofCarrier_of_fromExact? {T : TypeTag} {v : Value} {x : T.Carrier}
    (h : v.fromExact? T = some x) : ofCarrier T x = v := by
  by_cases hT : T = .any
  · subst hT
    exact (Option.some.inj h).symm
  · rw [fromExact?_of_ne_any hT, downcast?, Option.bind_eq_some_iff] at h
    obtain ⟨c, hc, hx⟩ := h
    cases v with
    | null => cases hc
    | boxed =>
      cases hc
      obtain rfl := Content.tag_of_as? hx
      obtain ⟨y, hy, hbox⟩ := c.exists_as?_tag
      obtain rfl : y = x := Option.some.inj (hy.symm.trans hx)
      exact hbox

/-- A boxed datum is read back.  The unit datum is not boxed. -/
theorem fromExact?_ofCarrier {T : TypeTag} (hT : T ≠ .unit) (x : T.Carrier) :
    (ofCarrier T x).fromExact? T = some x := by
  cases T with
  | any => rfl
  | unit => exact absurd rfl hT
  | object => exact nomatch x
  | optional => rfl
  | leaf l => simp [fromExact?, downcast?, ofCarrier, content?, Content.as?]
  | record path => simp [fromExact?, downcast?, ofCarrier, content?, Content.as?]

/-- The datum that a value is converted to, boxed, is the coerced value. -/
theorem coerce_of_converted? {T : TypeTag} {v : Value} {x : T.Carrier}
    (h : v.converted? T = some x) : v.coerce T = some (ofCarrier T x) := by
  rw [converted?, Option.bind_eq_some_iff] at h
  obtain ⟨w, hw, hx⟩ := h
  rw [hw, ofCarrier_of_fromExact? hx]

end Value

/-! ### Checks -/

namespace Check

/-- The type that a check asks for. -/
def target : Check → TypeTag
  | passthrough => .any
  | checked T => T

theorem target_ofType (T : TypeTag) : (ofType T).target = T := by
  rw [ofType]
  split
  · rename_i hT
    exact hT.symm
  · rfl

/-- A check takes the decision of the coercion to the type it asks for. -/
theorem retype_eq (c : Check) (v : Value) :
    c.retype v.content? =
      match v.retyped? c.target with
      | some r => .ok r
      | none => .error (mismatch c.target v) := by
  cases c with
  | passthrough => rfl
  | checked T =>
    rw [retype, target]
    by_cases hv : v.tag? = some T
    · obtain ⟨c, hc, rfl⟩ := Option.map_eq_some_iff.mp hv
      refine (if_pos hv).trans ?_
      simp only [Value.retyped?, hc, LateBinding.retype, if_true, ite_self]
    · have hretyped : LateBinding.retype T v.content? = v.retyped? T := rfl
      refine (if_neg hv).trans ?_
      rw [coerceSlow, hretyped]
      cases v.retyped? T <;> rfl

/-- The check for a declared type takes the decision of a coercion. -/
theorem retype_ofType (T : TypeTag) (v : Value) :
    (ofType T).retype v.content? =
      match v.retyped? T with
      | some r => .ok r
      | none => .error (mismatch T v) := by
  rw [retype_eq, target_ofType]

/-- **The check for a declared type is the conversion of a reflective call**, its failure seen from
a delegate. -/
theorem apply_ofType (p : Formal) (v : Value) :
    (ofType p.element).apply v = (coerceArgument p v).mapError .ofBind := by
  rw [apply, retype_ofType, coerceArgument, Value.coerce]
  cases v.retyped? p.element <;> rfl

/-- **A check makes a value anew when the coercion to the type it asks for does.** -/
theorem renews_eq (c : Check) (v : Value) : c.renews v = v.renewed c.target := by
  rw [renews, retype_eq, Value.renewed]
  cases v.retyped? c.target <;> rfl

end Check

end LateBinding
