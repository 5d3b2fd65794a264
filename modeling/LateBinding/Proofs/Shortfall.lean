import LateBinding.Proofs.Construction

/-!
# Containers of the wrong length

A delegate reads its arguments one by one and does not count them.  This file says what it makes of
a container that is longer than the parameter list, and what of one that is shorter.

* `marshal_take`, `renewedFor_take` — arguments in excess are not looked at;
* `copyBack_append`, `position_listFrom` — nothing is copied back to where they are;
* `Slot.ofFormals_append`, `marshal_append_slots` — marshalling the first slots, and then the
  others;
* `Shortfall`, `marshal_of_short` — where arguments are missing there is no frame.  Reported is the
  first of the others that does not convert, or else a read past the end.
-/

namespace LateBinding

/-! ### Arguments in excess -/

theorem coerceEach_take {formals : List Formal} :
    ∀ args : List Value,
      coerceEach formals (args.take formals.length) = coerceEach formals args := by
  induction formals with
  | nil => intro args; cases args <;> rfl
  | cons p ps ih =>
    intro args
    cases args with
    | nil => rfl
    | cons arg args => rw [List.length_cons, List.take_succ_cons, coerceEach, coerceEach, ih args]

/-- Which arguments are made anew does not depend on those in excess. -/
theorem renewedFor_take (formals : List Formal) (args : List Value) :
    renewedFor formals (args.take formals.length) = renewedFor formals args := by
  funext i
  rw [renewedFor, renewedFor]
  cases hp : formals[i]? with
  | none => rfl
  | some p =>
    have hi : i < formals.length := (List.getElem?_eq_some_iff.mp hp).1
    rw [List.getElem?_take_of_lt hi]

theorem renewed_take (variant : Variant) (formals : List Formal) (args : List Value) :
    renewed (args.take formals.length) (Slot.ofFormals variant 0 formals) =
      renewed args (Slot.ofFormals variant 0 formals) := by
  rw [renewed_ofFormals, renewed_ofFormals, renewedFor_take]

/-- **Arguments in excess are not marshalled.** -/
theorem marshal_take (variant : Variant) {formals : List Formal} {args : List Value}
    (h : formals.length ≤ args.length) :
    marshal (args.take formals.length) (Slot.ofFormals variant 0 formals) =
      marshal args (Slot.ofFormals variant 0 formals) := by
  have hroom : formals.length ≤ (args.take formals.length).length :=
    Nat.le_of_eq (List.length_take_of_le h).symm
  rw [marshal_eq_coerceEach variant hroom, marshal_eq_coerceEach variant h, coerceEach_take]

/-- **Nothing is copied back behind the last parameter.** -/
theorem copyBack_append {formals : List Formal} (rest : List Value) :
    ∀ {i : Nat} (names : List String) (frame : List Value) {args : List Value},
      i + formals.length ≤ args.length →
        Method.copyBack (Parameter.listFrom i names formals) frame (args ++ rest) =
          Method.copyBack (Parameter.listFrom i names formals) frame args ++ rest := by
  induction formals with
  | nil => intro i names frame args _; rfl
  | cons p ps ih =>
    intro i names frame args hlen
    cases frame with
    | nil => rw [copyBack_nil, copyBack_nil]
    | cons v frame =>
      rw [List.length_cons] at hlen
      rw [copyBack_listFrom_cons, copyBack_listFrom_cons]
      have hset : (if p.byRef then (args ++ rest).set i v else args ++ rest) =
          (if p.byRef then args.set i v else args) ++ rest := by
        split
        · exact List.set_append_left i v (by omega)
        · rfl
      rw [hset]
      refine ih names.tail frame ?_
      rw [length_set_if]
      omega

theorem exists_listFrom_cons (i : Nat) (names : List String) (p : Formal) (ps : List Formal) :
    ∃ name, Parameter.listFrom i names (p :: ps) =
      ⟨name, p, i⟩ :: Parameter.listFrom (i + 1) names.tail ps := by
  cases names <;> exact ⟨_, rfl⟩

/-- No parameter has a position behind the last one. -/
theorem position_listFrom {formals : List Formal} :
    ∀ {i : Nat} (names : List String), ∀ p ∈ Parameter.listFrom i names formals,
      p.position < i + formals.length := by
  induction formals with
  | nil => intro i names p hp; cases names <;> cases hp
  | cons q qs ih =>
    intro i names p hp
    obtain ⟨name, hcons⟩ := exists_listFrom_cons i names q qs
    rw [hcons] at hp
    rw [List.length_cons]
    rcases List.mem_cons.mp hp with rfl | hrest
    · show i < i + (qs.length + 1)
      omega
    · have hbehind := ih names.tail p hrest
      omega

/-! ### Missing arguments -/

theorem Slot.ofFormals_append (variant : Variant) (ps qs : List Formal) :
    ∀ i, Slot.ofFormals variant i (ps ++ qs) =
      Slot.ofFormals variant i ps ++ Slot.ofFormals variant (i + ps.length) qs := by
  induction ps with
  | nil => intro i; rfl
  | cons p ps ih =>
    intro i
    have hnext : i + (p :: ps).length = i + 1 + ps.length := by
      rw [List.length_cons]
      omega
    rw [List.cons_append, Slot.ofFormals, ih (i + 1), hnext]
    rfl

/-- Slots are marshalled from the first on. -/
theorem marshal_append_slots (args : List Value) (slots slots' : List Slot) :
    marshal args (slots ++ slots') =
      match marshal args slots with
      | .error fault => .error fault
      | .ok frame => (marshal args slots').map (frame ++ ·) := by
  induction slots with
  | nil => rw [List.nil_append]; cases marshal args slots' <;> rfl
  | cons slot slots ih =>
    rw [List.cons_append, marshal, marshal, ih]
    cases args[slot.position]? with
    | none => rfl
    | some arg =>
      cases hv : slot.check.apply arg with
      | error e => simp only [hv]
      | ok v =>
        simp only [hv]
        cases marshal args slots with
        | error fault => rfl
        | ok frame => cases marshal args slots' <;> rfl

theorem FirstMismatch.of_take {formals : List Formal} {args : List Value} {n k : Nat} {p : Formal}
    {arg : Value} (h : FirstMismatch (formals.take n) args k p arg) :
    FirstMismatch formals args k p arg := by
  have hformal := h.formal_eq
  rw [List.getElem?_take] at hformal
  split at hformal
  · rename_i hk
    have hbefore := h.before
    rw [List.take_take, Nat.min_eq_left (Nat.le_of_lt hk)] at hbefore
    exact ⟨hformal, h.arg_eq, h.fails, hbefore⟩
  · cases hformal

/-- What is reported of a container with too few arguments. -/
inductive Shortfall (formals : List Formal) (args : List Value) : Fault DelegateError → Prop
  /-- An argument that is there does not convert, the first of those. -/
  | mismatch {k : Nat} {p : Formal} {arg : Value} (first : FirstMismatch formals args k p arg) :
    Shortfall formals args (.error (.typeMismatch p.element.name arg.typeName))
  /-- All of them convert, and the next one is read past the end. -/
  | missing (converts : Converts (formals.take args.length) args) :
    Shortfall formals args (.outOfBounds args.length args.length)

/-- **A container that is too short is never marshalled.** -/
theorem marshal_of_short (variant : Variant) {formals : List Formal} {args : List Value}
    (h : args.length < formals.length) :
    ∃ fault, Shortfall formals args fault ∧
      marshal args (Slot.ofFormals variant 0 formals) = .error fault := by
  -- the slots of the arguments that are there, and those of the ones that are not
  have hsplit : Slot.ofFormals variant 0 formals =
      Slot.ofFormals variant 0 (formals.take args.length) ++
        Slot.ofFormals variant args.length (formals.drop args.length) := by
    have hlen : 0 + (formals.take args.length).length = args.length := by
      rw [Nat.zero_add, List.length_take_of_le (Nat.le_of_lt h)]
    have happend := Slot.ofFormals_append variant (formals.take args.length)
      (formals.drop args.length) 0
    rw [List.take_append_drop, hlen] at happend
    exact happend
  have hroom : (formals.take args.length).length ≤ args.length := List.length_take_le _ _
  rw [hsplit, marshal_append_slots, marshal_eq_coerceEach variant hroom]
  rcases converts_or_firstMismatch hroom with hargs | ⟨k, p, arg, hfirst, herror⟩
  · obtain ⟨frame, hframe⟩ := coerceEach_of_converts hargs
    refine ⟨_, .missing hargs, ?_⟩
    rw [hframe, List.drop_eq_getElem_cons h, marshal_ofFormals_cons,
      List.getElem?_eq_none (Nat.le_refl _)]
    rfl
  · refine ⟨_, .mismatch hfirst.of_take, ?_⟩
    rw [herror]
    rfl

end LateBinding
