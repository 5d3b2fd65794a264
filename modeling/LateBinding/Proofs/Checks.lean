import LateBinding.Proofs.Coherence
import LateBinding.Proofs.Access

/-!
# Checks: a delegate converts as reflection does

The check of a slot looks for the required type first and coerces only then, in one order for a
value that is looked at and in another for one that is given up.  A reflective call coerces at once.
The three come to the same, for every value and every type: null, the type of all values, and types
that nothing is widened to are no exceptions.

* `Check.Coerces`, `Check.coerces_ofType` — a check that does to a value what a coercion does, to
  the same values, sharing the same ones;
* `Value.Refused`, `Value.refused_of_coerce` — one mismatch, wherever a value that does not convert
  is met: by the checks, among the arguments of a reflective call, and when a property is written;
* `Pool.rebind`, `Pool.rebind_eq_step` — a variable bound to what a check lets through, which is
  what coercing the variable leaves;
* `Pool.Owned.ref_rebind_iff` — the datum is shared if it was kept, and only then;
* `checks_coerce` — all of it.
-/

namespace LateBinding

/-! ### What passes -/

namespace Check

/-- A check that does to a value what its coercion to type `T` does, whether the value is looked at
or given up.  It passes in the same cases and is the same value then, kept or new. -/
structure Coerces (c : Check) (T : TypeTag) (v : Value) : Prop where
  retype_iff : ∀ r, c.retype v.content? = .ok r ↔ v.retyped? T = some r
  retypeOwned_iff : ∀ r, c.retypeOwned v.content? = .ok r ↔ v.retyped? T = some r
  apply_iff : ∀ w, c.apply v = .ok w ↔ v.coerce T = some w
  applyOwned_iff : ∀ w, c.applyOwned v = .ok w ↔ v.coerce T = some w

theorem retype_ofType_eq_ok_iff {T : TypeTag} {v : Value} {r : Retyped Value} :
    (ofType T).retype v.content? = .ok r ↔ v.retyped? T = some r := by
  rw [retype_ofType]
  cases v.retyped? T with
  | none => exact iff_of_false (fun h => by cases h) (fun h => by cases h)
  | some r' => simp only [Except.ok.injEq, Option.some.injEq]

/-- A check lets pass what is coerced to the type it asks for. -/
theorem apply_eq_ok_iff {c : Check} {v w : Value} :
    c.apply v = .ok w ↔ v.coerce c.target = some w := by
  rw [apply, retype_eq, Value.coerce]
  cases v.retyped? c.target with
  | none => exact iff_of_false (fun h => by cases h) (fun h => by cases h)
  | some r => simp only [Except.map, Option.map_some, Except.ok.injEq, Option.some.injEq]

theorem apply_ofType_eq_ok_iff {T : TypeTag} {v w : Value} :
    (ofType T).apply v = .ok w ↔ v.coerce T = some w := by
  rw [apply_eq_ok_iff, target_ofType]

theorem applyOwned_eq_apply (c : Check) (v : Value) : c.applyOwned v = c.apply v := by
  rw [applyOwned, apply, retypeOwned_eq_retype]

/-- **The check for a declared type is the coercion to it.** -/
theorem coerces_ofType (T : TypeTag) (v : Value) : (ofType T).Coerces T v where
  retype_iff _ := retype_ofType_eq_ok_iff
  retypeOwned_iff _ := by rw [retypeOwned_eq_retype, retype_ofType_eq_ok_iff]
  apply_iff _ := apply_ofType_eq_ok_iff
  applyOwned_iff _ := by rw [applyOwned_eq_apply, apply_ofType_eq_ok_iff]

end Check

/-! ### What does not pass -/

/-- An argument that does not convert, behind arguments that do, is what the conversion of a list of
arguments reports; what stands behind it is not looked at. -/
theorem coerceEach_append_mismatch {p : Formal} {v : Value} (hv : v.coerce p.element = none)
    (after : List Formal) (rest : List Value) {before : List Formal} :
    ∀ {passed frame : List Value}, passed.length = before.length →
      coerceEach before passed = .ok frame →
      coerceEach (before ++ p :: after) (passed ++ v :: rest) = .error (v.mismatch p.element) := by
  induction before with
  | nil =>
    intro passed frame hlen _
    rw [List.length_eq_zero_iff.mp hlen, List.nil_append, List.nil_append, coerceEach,
      coerceArgument, hv]
  | cons q before ih =>
    intro passed frame hlen hpassed
    cases passed with
    | nil => cases hlen
    | cons arg passed =>
      rw [coerceEach] at hpassed
      rw [List.cons_append, List.cons_append, coerceEach]
      cases harg : coerceArgument q arg with
      | error e =>
        rw [harg] at hpassed
        cases hpassed
      | ok w =>
        simp only [harg] at hpassed
        cases hrest : coerceEach before passed with
        | error e =>
          rw [hrest] at hpassed
          cases hpassed
        | ok frame' =>
          simp only [ih (Nat.succ.inj hlen) hrest]

/-- The mismatch `e` is what is reported of a value that does not convert to type `T`: by the check
of a delegate, for a value that is looked at or given up; of the first argument of a reflective call
that does not convert; and when it is written to a property. -/
structure Value.Refused (T : TypeTag) (v : Value) (e : BindError) : Prop where
  error_eq : e = .typeMismatch T.name v.typeName
  carried_eq : DelegateError.ofBind e = .typeMismatch T.name v.typeName
  apply_eq : (Check.ofType T).apply v = .error (.ofBind e)
  applyOwned_eq : (Check.ofType T).applyOwned v = .error (.ofBind e)
  coerceArguments_eq : ∀ (member : String) (p : Formal) (before after : List Formal)
    (passed rest : List Value) {frame : List Value}, p.element = T →
    passed.length = before.length → rest.length = after.length →
    coerceEach before passed = .ok frame →
    coerceArguments member (before ++ p :: after) (passed ++ v :: rest) = .error e
  set_eq : ∀ {declaring : TypeTag} (p : Property declaring), p.type = T → p.write?.isSome →
    ∀ i sole, p.set i ⟨v, sole⟩ = .refused i e

/-- **A value that does not convert is refused with one mismatch everywhere.** -/
theorem Value.refused_of_coerce {T : TypeTag} {v : Value} (h : v.coerce T = none) :
    v.Refused T (v.mismatch T) where
  error_eq := rfl
  carried_eq := rfl
  apply_eq := by rw [← Check.applyOwned_eq_apply, Check.applyOwned_ofType, h]
  applyOwned_eq := by rw [Check.applyOwned_ofType, h]
  coerceArguments_eq := by
    rintro member p before after passed rest frame rfl hpassed hrest hframe
    have hlen : (passed ++ v :: rest).length = (before ++ p :: after).length := by
      simp only [List.length_append, List.length_cons, hpassed, hrest]
    rw [coerceArguments, if_pos hlen, coerceEach_append_mismatch h after rest hpassed hframe]
  set_eq := by
    rintro declaring p rfl hwrite i sole
    obtain ⟨store, hstore⟩ := Option.isSome_iff_exists.mp hwrite
    rw [Property.assigns_set hstore i ⟨v, sole⟩, converted?_eq_none_iff.mpr h]
    rfl

/-! ### What is shared -/

/-- The datum of what is seen behind a handle is the one in the cell, seen likewise. -/
theorem Store.content?_view (s : Store) (ref : Ref) :
    (s.view ref).content? = (s.read? ref).map (Content.map (s.viewTo s.cells.length)) := by
  rw [view, viewTo]
  cases s.read? ref with
  | none => rfl
  | some content =>
    cases content with
    | leaf kind datum => rfl
    | optional ref? => rfl
    | record path fields =>
      refine congrArg (fun fields => some (Content.record path fields)) ?_
      refine List.map_congr_left fun field _ => ?_
      obtain ⟨name, field⟩ := field
      cases field <;> rfl

namespace Pool

/-- Bind the variable `target` to what became of the value of the variable `source`: to the datum
itself, or to a new one.  A value that is given up is bound to the variable it came from. -/
def rebind (p : Pool) (source target : String) : Retyped Value → Pool
  | .kept => (p.step (.share source target)).2
  | .fresh content => (p.step (.make target (Draft.ofValue (.boxed content)))).2

/-- **What a coercion leaves at a variable**, if it succeeds: the datum itself where the value is
kept, and a new one where it is not. -/
theorem rebind_eq_step {p : Pool} {T : TypeTag} {source : String} {r : Retyped Value}
    (h : (p.view source).retyped? T = some r) (target : String) :
    p.rebind source target r = (p.step (.coerce T source target)).2 := by
  rw [Value.retyped?, view, Store.content?_view, retype_map] at h
  obtain ⟨r', hr', rfl⟩ := Option.map_eq_some_iff.mp h
  rw [step, hr']
  cases r' with
  | kept => rfl
  | fresh content =>
    -- what is made new is a leaf, and a leaf is the same in a cell and outside
    obtain ⟨c, -, hwiden⟩ := exists_widen?_of_retype hr'
    obtain ⟨_, b, widen, datum, -, -, -, rfl⟩ := Content.widen?_cases hwiden
    rfl

/-- **The datum is shared if the value was kept, and only then.** -/
theorem Owned.ref_rebind_iff {p : Pool} (h : p.Owned) {T : TypeTag} {source : String}
    {r : Retyped Value} (hr : (p.view source).retyped? T = some r) (target : String) :
    (p.rebind source target r).ref target = p.ref source ↔ r = .kept := by
  have hw : (p.view source).coerce T = some (r.on (p.view source)) := by
    rw [Value.coerce, hr]
    rfl
  have hcoerces := h.coerces target hw
  rw [rebind_eq_step hr]
  by_cases hserves : (p.view source).Serves T
  · rw [Value.retyped?_of_serves hserves] at hr
    cases hr
    exact iff_of_true (hcoerces.kept hserves) rfl
  · obtain ⟨⟨c, hc, -⟩, -⟩ := (Value.lossless_of_coerce hw).fresh hserves
    rw [hc] at hr
    cases hr
    obtain ⟨a, ha, hnew⟩ := hcoerces.fresh hserves
    refine iff_of_false (fun hsame => hnew ?_) (fun hkept => by cases hkept)
    exact h.live source a (hsame.symm.trans ha)

end Pool

/-- **A delegate converts as reflection does.**  For every type and every value, the check for the
type and the coercion to it let the same values pass, looked at or given up, and make the same of
them.  On shared data they leave the same at a variable, which has its datum in common with the
variable the value came from if the value was kept, and only then.  A value that does not pass is
refused with the mismatch of the two types, as an argument of a reflective call and on the way to a
property are. -/
theorem checks_coerce (T : TypeTag) :
    (∀ v, (Check.ofType T).Coerces T v) ∧
    (∀ v : Value, v.coerce T = none → ∃ e, v.Refused T e) ∧
    (∀ (p : Pool) (source target : String) (r : Retyped Value),
      (Check.ofType T).retype (p.view source).content? = .ok r ∨
        (Check.ofType T).retypeOwned (p.view source).content? = .ok r →
      p.rebind source target r = (p.step (.coerce T source target)).2) ∧
    ∀ (ops : List Pool.Op) (source target : String) (r : Retyped Value),
      (Check.ofType T).retype ((Pool.after ops).view source).content? = .ok r →
      (((Pool.after ops).rebind source target r).ref target = (Pool.after ops).ref source ↔
        r = .kept) := by
  refine ⟨Check.coerces_ofType T, fun v hv => ⟨_, Value.refused_of_coerce hv⟩, ?_, ?_⟩
  · intro p source target r hr
    have hcoerces := Check.coerces_ofType T (p.view source)
    exact Pool.rebind_eq_step (hr.elim (hcoerces.retype_iff r).mp (hcoerces.retypeOwned_iff r).mp)
      target
  · intro ops source target r hr
    have hretyped := ((Check.coerces_ofType T _).retype_iff r).mp hr
    exact (Pool.owned_after ops).1.ref_rebind_iff hretyped target

/-- A small number is widened on the way to a delegate; null is refused where a text is asked for,
as the second of two arguments among others; and a variable that is checked for its own type goes on
sharing its datum. -/
theorem checks_coerce_samples :
    (Check.ofType .double).applyOwned (.ofCarrier (.int .u8) (Word.wrap .u8 200)) =
      .ok (.ofCarrier .double (BinaryFloat.ofInt .double 200)) ∧
    (Check.ofType .text).apply .null = .error (.typeMismatch "String" "null") ∧
    coerceArguments "join" [.byValue .any, .byValue .text] [.null, .null] =
      .error (.typeMismatch "String" "null") ∧
    ((Pool.after [.step (.make "a" (.boxed (.leaf .text "x")))]).rebind "a" "b" .kept).ref "b" =
      (Pool.after [.step (.make "a" (.boxed (.leaf .text "x")))]).ref "a" := by
  obtain ⟨hdouble, -, -, -⟩ := checks_coerce .double
  obtain ⟨-, hrefused, -, hshared⟩ := checks_coerce .text
  obtain ⟨e, he⟩ := hrefused .null rfl
  refine ⟨((hdouble _).applyOwned_iff _).mpr rfl, ?_, ?_, ?_⟩
  · rw [he.apply_eq, he.carried_eq]
    rfl
  · have hsecond := he.coerceArguments_eq "join" (.byValue .text) [.byValue .any] [] [.null] []
      rfl rfl rfl rfl
    rw [he.error_eq] at hsecond
    exact hsecond
  · have hview : (Pool.after [.step (.make "a" (.boxed (.leaf .text "x")))]).view "a" =
        .text "x" := by
      rw [Pool.view_eq_plain, (Pool.owned_after _).2]
      rfl
    exact (hshared _ "a" "b" .kept (by rw [hview]; rfl)).mpr rfl

end LateBinding
