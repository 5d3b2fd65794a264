import LateBinding.Proofs.Planning

/-!
# Writing back: slots and parameters name the same positions

After a call with write-back the frame is copied to the container, by a delegate slot by slot and by
a reflective call parameter by parameter.

* `writeBack_cons` — the first step through any slots;
* `writeBack_ofFormals_cons`, `copyBack_listFrom_cons` — the first step of either is the same;
* `writeBack_ofFormals` — **the two leave the same container** when it is long enough for all
  parameters, and writing back through slots is never out of range then.
-/

namespace LateBinding

theorem writeAt_of_lt {args : List Value} {k : Nat} (h : k < args.length) (v : Value) :
    writeAt args k v = .ok (args.set k v) := if_pos h

/-- Writing one value back, if at all, keeps the length. -/
theorem length_set_if (written : Bool) (args : List Value) (i : Nat) (v : Value) :
    (if written then args.set i v else args).length = args.length := by
  split
  · exact List.length_set
  · rfl

/-- Through slots the first frame value goes to the position of the first slot, if that one writes
back. -/
theorem writeBack_cons {slot : Slot} {args : List Value} (hslot : slot.position < args.length)
    (v : Value) (slots : List Slot) (frame : List Value) :
    writeBack (slot :: slots) (v :: frame) args =
      writeBack slots frame (if slot.writesBack then args.set slot.position v else args) := by
  rw [writeBack]
  cases slot.writesBack with
  | true => simp only [if_true, writeAt_of_lt hslot]
  | false => simp only [Bool.false_eq_true, if_false]

/-- Through the slots of a parameter list it goes to the first position, if the first parameter is
passed by reference. -/
theorem writeBack_ofFormals_cons {i : Nat} {args : List Value} (hi : i < args.length) (p : Formal)
    (ps : List Formal) (v : Value) (frame : List Value) :
    writeBack (Slot.ofFormals .byRef i (p :: ps)) (v :: frame) args =
      writeBack (Slot.ofFormals .byRef (i + 1) ps) frame
        (if p.byRef then args.set i v else args) := by
  rw [Slot.ofFormals, writeBack_cons hi]
  simp only [decide_true, Bool.true_and]

/-- Through parameters it goes to the same place. -/
theorem copyBack_listFrom_cons (i : Nat) (names : List String) (p : Formal) (ps : List Formal)
    (v : Value) (frame args : List Value) :
    Method.copyBack (Parameter.listFrom i names (p :: ps)) (v :: frame) args =
      Method.copyBack (Parameter.listFrom (i + 1) names.tail ps) frame
        (if p.byRef then args.set i v else args) := by
  cases names <;> rfl

theorem copyBack_nil (ps : List Parameter) (args : List Value) :
    Method.copyBack ps [] args = args := by
  cases ps <;> rfl

theorem writeBack_nil (slots : List Slot) (args : List Value) :
    writeBack slots [] args = .ok args := by
  cases slots <;> rfl

/-- **Writing back through slots is writing back through parameters.**  The frame may be of any
length. -/
theorem writeBack_ofFormals {formals : List Formal} :
    ∀ {i : Nat} (names : List String) (frame : List Value) {args : List Value},
      i + formals.length ≤ args.length →
        writeBack (Slot.ofFormals .byRef i formals) frame args =
          .ok (Method.copyBack (Parameter.listFrom i names formals) frame args) := by
  induction formals with
  | nil => intro i names frame args _; rfl
  | cons p ps ih =>
    intro i names frame args hlen
    cases frame with
    | nil => rw [writeBack_nil, copyBack_nil]
    | cons v frame =>
      rw [List.length_cons] at hlen
      rw [writeBack_ofFormals_cons (by omega), copyBack_listFrom_cons]
      refine ih names.tail frame ?_
      -- the container changes on the way, its length does not
      have hkeep := length_set_if p.byRef args i v
      omega

end LateBinding
