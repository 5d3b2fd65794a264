import LateBinding.Proofs.Conversion
import LateBinding.Proofs.Planning

/-!
# Marshalling: from a container to the arguments of a call

A call reads its arguments either through a frame of converted values or in place, and a reflective
call converts the list it is given.  This file compares each of the three with one reading that
knows neither frames nor slots.

* `Args.supply` — the arguments at their declared types, each converted on its own, up to the first
  that is missing or does not convert;
* `Args.supply_of_marshal_ok`, `Args.supply_of_marshal_error` — marshalling and then reading the
  frame is supplying;
* `Args.supply_of_readExact?` — arguments that can be read in place are those supplied;
* `marshal_append` — for a container of the right length marshalling is the conversion of a
  reflective call;
* `Converts`, `marshal_of_converts`, `coerceEach_of_converts` — the condition under which all
  arguments convert, and that it suffices;
* `Coerced`, `coerced_of_marshal`, `coerced_of_coerceArguments` — what a frame holds then, position
  by position, and `marshal_of_coerced`, `coerceArguments_of_coerced` — no other frame holds that;
* `renewed_ofFormals` — which of its values are made anew.
-/

namespace LateBinding

/-! ### Marshalling the slots of a parameter list -/

/-- The failure of an argument that does not convert, in a delegate call. -/
def Fault.mismatch (T : TypeTag) (v : Value) : Fault DelegateError := .error (Check.mismatch T v)

theorem marshal_ofFormals_cons (args : List Value) (variant : Variant) (i : Nat) (p : Formal)
    (ps : List Formal) :
    marshal args (Slot.ofFormals variant i (p :: ps)) =
      match args[i]? with
      | none => .error (.outOfBounds args.length i)
      | some arg =>
        match arg.coerce p.element with
        | none => .error (.mismatch p.element arg)
        | some v =>
          match marshal args (Slot.ofFormals variant (i + 1) ps) with
          | .error fault => .error fault
          | .ok frame => .ok (v :: frame) := by
  rw [Slot.ofFormals, marshal]
  cases args[i]? with
  | none => rfl
  | some arg =>
    simp only [Check.apply_ofType, coerceArgument]
    cases arg.coerce p.element <;> rfl

/-! ### Typed arguments -/

namespace Args

/-- The arguments of a call from position `i` on, each converted to its declared type. -/
def supply (args : List Value) : (i : Nat) → (types : List TypeTag) →
    Except (Fault DelegateError) (Args types)
  | _, [] => .ok ()
  | i, T :: types =>
    match args[i]? with
    | none => .error (.outOfBounds args.length i)
    | some v =>
      match v.converted? T with
      | none => .error (.mismatch T v)
      | some x =>
        match supply args (i + 1) types with
        | .error fault => .error fault
        | .ok xs => .ok (x, xs)

/-- What keeps arguments from being marshalled keeps them from being supplied. -/
theorem supply_of_marshal_error {args : List Value} {variant : Variant} {types : List TypeTag} :
    ∀ {i fault}, marshal args (Slot.ofFormals variant i (types.map .byValue)) = .error fault →
      supply args i types = .error fault := by
  induction types with
  | nil => intro i fault h; cases h
  | cons T types ih =>
    intro i fault h
    rw [List.map_cons, marshal_ofFormals_cons] at h
    rw [supply]
    cases hv : args[i]? with
    | none =>
      rw [hv] at h
      cases h
      rfl
    | some v =>
      simp only [hv, Formal.byValue] at h
      cases hw : v.coerce T with
      | none =>
        simp only [hw, Except.error.injEq] at h
        simp only [Value.converted?_eq_none_iff.mpr hw, h]
      | some w =>
        obtain ⟨x, hx, -⟩ := Value.fromValue_of_coerce hw
        simp only [hw] at h
        split at h
        · rename_i hrest
          cases h
          simp only [hx, ih hrest]
        · cases h

/-- **Marshalling and then reading the frame is supplying.**  The frame may follow other values, as
it does when its first arguments have been read. -/
theorem supply_of_marshal_ok {args : List Value} {variant : Variant} {types : List TypeTag} :
    ∀ {i frame}, marshal args (Slot.ofFormals variant i (types.map .byValue)) = .ok frame →
      ∃ xs, supply args i types = .ok xs ∧
        ∀ before, readFrame (before ++ frame) before.length types = .ok xs := by
  induction types with
  | nil => intro i frame _; exact ⟨(), rfl, fun before => rfl⟩
  | cons T types ih =>
    intro i frame h
    rw [List.map_cons, marshal_ofFormals_cons] at h
    cases hv : args[i]? with
    | none => rw [hv] at h; cases h
    | some v =>
      simp only [hv, Formal.byValue] at h
      cases hw : v.coerce T with
      | none => rw [hw] at h; cases h
      | some w =>
        obtain ⟨x, hx, hread⟩ := Value.fromValue_of_coerce hw
        simp only [hw] at h
        split at h
        · cases h
        · rename_i rest hrest
          cases h
          obtain ⟨xs, hxs, hreads⟩ := ih hrest
          refine ⟨(x, xs), ?_, ?_⟩
          · rw [supply, hv]
            simp only [hx, hxs]
          · intro before
            -- reading on from `w` is reading behind `before ++ [w]`
            have hnext := hreads (before ++ [w])
            rw [List.append_assoc, List.singleton_append, List.length_append,
              List.length_singleton] at hnext
            rw [readFrame, List.getElem?_append_right (Nat.le_refl _), Nat.sub_self,
              List.getElem?_cons_zero]
            simp only [hread, hnext]

/-- **Arguments that can be read in place are those supplied.** -/
theorem supply_of_readExact? {args : List Value} {types : List TypeTag} :
    ∀ {i xs}, readExact? args i types = some xs → supply args i types = .ok xs := by
  induction types with
  | nil => intro i xs _; rfl
  | cons T types ih =>
    intro i xs h
    rw [readExact?] at h
    cases hx : args[i]?.bind (Value.fromExact? T) with
    | none => rw [hx] at h; cases h
    | some x =>
      obtain ⟨v, hv, hread⟩ := Option.bind_eq_some_iff.mp hx
      simp only [hx] at h
      split at h
      · cases h
      · rename_i hrest
        cases h
        rw [supply, hv]
        simp only [Value.converted?_of_fromExact? hread, ih hrest]

end Args

/-! ### Containers of the right length -/

/-- **For a container of the right length marshalling is the conversion of a reflective call**, its
failure seen from a delegate.  Arguments in excess are not looked at. -/
theorem marshal_append (variant : Variant) {formals : List Formal} :
    ∀ (before : List Value) {args : List Value}, formals.length ≤ args.length →
      marshal (before ++ args) (Slot.ofFormals variant before.length formals) =
        (coerceEach formals args).mapError fun e => .error (.ofBind e) := by
  induction formals with
  | nil => intro before args _; cases args <;> rfl
  | cons p ps ih =>
    intro before args hlen
    cases args with
    | nil => simp at hlen
    | cons arg args =>
      -- what has been converted stays in front, so that positions are those of the container
      have hrest := ih (before ++ [arg]) (Nat.le_of_succ_le_succ hlen)
      rw [List.append_assoc, List.singleton_append, List.length_append,
        List.length_singleton] at hrest
      rw [marshal_ofFormals_cons, List.getElem?_append_right (Nat.le_refl _), Nat.sub_self,
        List.getElem?_cons_zero, hrest, coerceEach, coerceArgument]
      cases hv : arg.coerce p.element with
      | none => simp only [hv]; rfl
      | some v =>
        simp only [hv]
        cases coerceEach ps args <;> rfl

theorem marshal_eq_coerceEach (variant : Variant) {formals : List Formal} {args : List Value}
    (hlen : formals.length ≤ args.length) :
    marshal args (Slot.ofFormals variant 0 formals) =
      (coerceEach formals args).mapError fun e => .error (.ofBind e) :=
  marshal_append variant [] hlen

/-- The frame of a reflective call is one that a delegate marshals as well. -/
theorem marshal_of_coerceArguments (variant : Variant) {member : String} {formals : List Formal}
    {args frame : List Value} (h : coerceArguments member formals args = .ok frame) :
    marshal args (Slot.ofFormals variant 0 formals) = .ok frame := by
  rw [coerceArguments] at h
  split at h
  · rename_i hlen
    rw [marshal_eq_coerceEach variant (Nat.le_of_eq hlen.symm), h]
    rfl
  · cases h

/-! ### Arguments that convert -/

/-- Every parameter has an argument that converts to its type. -/
def Converts (formals : List Formal) (args : List Value) : Prop :=
  ∀ (k : Nat) (p : Formal), formals[k]? = some p →
    ∃ arg : Value, args[k]? = some arg ∧ (arg.coerce p.element).isSome

theorem Converts.head {p : Formal} {ps : List Formal} {arg : Value} {args : List Value}
    (h : Converts (p :: ps) (arg :: args)) : ∃ v, arg.coerce p.element = some v := by
  obtain ⟨a, ha, hv⟩ := h 0 p rfl
  cases ha
  exact Option.isSome_iff_exists.mp hv

theorem Converts.tail {p : Formal} {ps : List Formal} {arg : Value} {args : List Value}
    (h : Converts (p :: ps) (arg :: args)) : Converts ps args := by
  intro k q hq
  exact h (k + 1) q hq

theorem Converts.cons {p : Formal} {ps : List Formal} {arg : Value} {args : List Value}
    (hp : (arg.coerce p.element).isSome) (h : Converts ps args) :
    Converts (p :: ps) (arg :: args) := by
  intro k q hq
  cases k with
  | zero => cases hq; exact ⟨arg, rfl, hp⟩
  | succ k => exact h k q hq

theorem Converts.length_le {formals : List Formal} {args : List Value} (h : Converts formals args) :
    formals.length ≤ args.length := by
  refine Nat.le_of_not_lt fun hk => ?_
  obtain ⟨arg, harg, -⟩ := h args.length formals[args.length] (List.getElem?_eq_getElem hk)
  rw [List.getElem?_eq_none (Nat.le_refl _)] at harg
  cases harg

/-- Where every parameter has an argument that converts, the arguments convert. -/
theorem coerceEach_of_converts {formals : List Formal} :
    ∀ {args : List Value}, Converts formals args →
      ∃ frame, coerceEach formals args = .ok frame := by
  induction formals with
  | nil => intro args _; cases args <;> exact ⟨[], rfl⟩
  | cons p ps ih =>
    intro args h
    cases args with
    | nil => exact absurd h.length_le (by simp)
    | cons arg args =>
      obtain ⟨v, hv⟩ := h.head
      obtain ⟨frame, hframe⟩ := ih h.tail
      refine ⟨v :: frame, ?_⟩
      rw [coerceEach, coerceArgument, hv]
      simp only [hframe]

theorem marshal_of_converts (variant : Variant) {formals : List Formal} {args : List Value}
    (h : Converts formals args) :
    ∃ frame, marshal args (Slot.ofFormals variant 0 formals) = .ok frame := by
  obtain ⟨frame, hframe⟩ := coerceEach_of_converts h
  exact ⟨frame, by rw [marshal_eq_coerceEach variant h.length_le, hframe]; rfl⟩

/-! ### Frames position by position -/

/-- A frame has one value for each parameter, the argument at its position coerced to its type. -/
def Coerced (formals : List Formal) (args frame : List Value) : Prop :=
  frame.length = formals.length ∧
    ∀ (k : Nat) (p : Formal), formals[k]? = some p →
      ∃ arg v : Value, args[k]? = some arg ∧ arg.coerce p.element = some v ∧ frame[k]? = some v

/-- The arguments of a marshalled frame may stand behind others. -/
theorem coerced_drop_of_marshal {variant : Variant} {args : List Value} {formals : List Formal} :
    ∀ {i frame}, marshal args (Slot.ofFormals variant i formals) = .ok frame →
      Coerced formals (args.drop i) frame := by
  induction formals with
  | nil =>
    intro i frame h
    cases h
    exact ⟨rfl, fun k p hp => by cases hp⟩
  | cons p ps ih =>
    intro i frame h
    rw [marshal_ofFormals_cons] at h
    split at h
    · cases h
    rename_i arg harg
    split at h
    · cases h
    rename_i v hv
    split at h
    · cases h
    rename_i rest hrest
    cases h
    obtain ⟨hlen, hpos⟩ := ih hrest
    refine ⟨congrArg Nat.succ hlen, ?_⟩
    intro k q hq
    cases k with
    | zero =>
      cases hq
      exact ⟨arg, v, by rw [List.getElem?_drop, Nat.add_zero, harg], hv, rfl⟩
    | succ k =>
      obtain ⟨arg', v', harg', hv', hframe⟩ := hpos k q hq
      refine ⟨arg', v', ?_, hv', hframe⟩
      rw [← harg', List.getElem?_drop, List.getElem?_drop]
      congr 1
      omega

/-- **A marshalled frame holds the coerced arguments.** -/
theorem coerced_of_marshal {variant : Variant} {args : List Value} {formals : List Formal}
    {frame : List Value} (h : marshal args (Slot.ofFormals variant 0 formals) = .ok frame) :
    Coerced formals args frame := coerced_drop_of_marshal h

/-- **So does the frame of a reflective call.** -/
theorem coerced_of_coerceArguments {member : String} {formals : List Formal}
    {args frame : List Value} (h : coerceArguments member formals args = .ok frame) :
    Coerced formals args frame :=
  coerced_of_marshal (marshal_of_coerceArguments .byValue h)

/-- Coerced arguments convert. -/
theorem Coerced.converts {formals : List Formal} {args frame : List Value}
    (h : Coerced formals args frame) : Converts formals args := by
  intro k p hp
  obtain ⟨arg, v, harg, hv, -⟩ := h.2 k p hp
  exact ⟨arg, harg, by rw [hv]; rfl⟩

/-- The arguments of a call are coerced in one way only. -/
theorem Coerced.unique {formals : List Formal} {args frame frame' : List Value}
    (h : Coerced formals args frame) (h' : Coerced formals args frame') : frame = frame' := by
  refine List.ext_getElem? fun k => ?_
  by_cases hk : k < formals.length
  · have hp : formals[k]? = some formals[k] := List.getElem?_eq_getElem hk
    obtain ⟨arg, v, harg, hv, hframe⟩ := h.2 k _ hp
    obtain ⟨arg', v', harg', hv', hframe'⟩ := h'.2 k _ hp
    rw [harg] at harg'
    cases harg'
    rw [hframe, hframe', ← hv, ← hv']
  · have hlen : frame.length ≤ k := h.1 ▸ Nat.le_of_not_lt hk
    have hlen' : frame'.length ≤ k := h'.1 ▸ Nat.le_of_not_lt hk
    rw [List.getElem?_eq_none hlen, List.getElem?_eq_none hlen']

/-- **A frame of coerced arguments is the one that is marshalled.** -/
theorem marshal_of_coerced (variant : Variant) {formals : List Formal} {args frame : List Value}
    (h : Coerced formals args frame) :
    marshal args (Slot.ofFormals variant 0 formals) = .ok frame := by
  obtain ⟨frame', hframe'⟩ := marshal_of_converts variant h.converts
  rw [hframe', (coerced_of_marshal hframe').unique h]

/-- **And the one of a reflective call**, if the number of arguments is right. -/
theorem coerceArguments_of_coerced (member : String) {formals : List Formal}
    {args frame : List Value} (hlen : args.length = formals.length)
    (h : Coerced formals args frame) : coerceArguments member formals args = .ok frame := by
  obtain ⟨frame', hframe'⟩ := coerceEach_of_converts h.converts
  have hargs : coerceArguments member formals args = .ok frame' := by
    rw [coerceArguments, if_pos hlen, hframe']
  rw [hargs, (coerced_of_coerceArguments hargs).unique h]

/-! ### Values made anew -/

/-- **A delegate makes anew what a reflective call does**, whether it writes back or not. -/
theorem renewed_ofFormals (variant : Variant) (args : List Value) (formals : List Formal) :
    renewed args (Slot.ofFormals variant 0 formals) = renewedFor formals args := by
  funext k
  rw [renewed, renewedFor, Slot.getElem?_ofFormals]
  cases formals[k]? with
  | none => rfl
  | some p =>
    simp only [Option.map_some, Nat.zero_add, Check.renews_eq, Check.target_ofType]
    cases args[k]? <;> rfl

end LateBinding
