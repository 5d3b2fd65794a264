import Mathlib.Data.List.Forall2
import LateBinding.Proofs.Checks
import LateBinding.Proofs.Shortfall

/-!
# Slots: any positions, in any order

The slots of a call stand for its parameters, one position after the other.  Marshalling and
writing back do not rely on that.  Slots may read one position twice, in any order, with any
checks, and several may write to one position; this file says what comes of it.

* `Check.eq_of_apply_error`, `Check.apply_again` — what a check reports, and that it lets what it
  has let through pass unchanged;
* `Slot.Reads`, `Slot.Offends`, `Slot.reads_or_offends` — what one slot makes of a container;
* `marshal_eq_ok_iff`, `exists_marshal_iff`, `marshal_eq_error_iff` — a frame holds what the slots
  read, and where there is none the first slot that offends is to blame;
* `LastWriter`, `WrittenBack`, `exists_writeBack` — writing back, position by position: of several
  slots the last one wins;
* `WrittenBack.marshal_again` — where no position is read twice, marshalling what was marshalled
  and written back makes the same frame;
* `slots_exact` — all of it.
-/

namespace LateBinding

/-! ### Checks -/

namespace Check

/-- The refusal names the type that is asked for and the type of the value. -/
theorem eq_of_apply_error {c : Check} {v : Value} {e : DelegateError} (h : c.apply v = .error e) :
    e = .typeMismatch c.target.name v.typeName := by
  rw [apply, retype_eq] at h
  cases hr : v.retyped? c.target with
  | none =>
    rw [hr] at h
    cases h
    rfl
  | some r =>
    rw [hr] at h
    cases h

/-- **What a check has let through it lets through unchanged.** -/
theorem apply_again {c : Check} {v w : Value} (h : c.apply v = .ok w) : c.apply w = .ok w :=
  apply_eq_ok_iff.mpr (Value.coerce_of_serves (Value.serves_of_coerce (apply_eq_ok_iff.mp h)))

end Check

/-! ### One slot -/

namespace Slot

variable {args : List Value} {slot : Slot} {v : Value} {fault : Fault DelegateError}

/-- The position of the slot is in range, and its check makes `v` of the value there. -/
def Reads (args : List Value) (slot : Slot) (v : Value) : Prop :=
  ∃ arg, args[slot.position]? = some arg ∧ slot.check.apply arg = .ok v

/-- A slot that cannot be read, and what is reported of it. -/
inductive Offends (args : List Value) (slot : Slot) : Fault DelegateError → Prop
  /-- Its position is past the end. -/
  | outOfBounds (past : args.length ≤ slot.position) :
    Offends args slot (.outOfBounds args.length slot.position)
  /-- The value at its position does not pass. -/
  | mismatch {arg : Value} (arg_eq : args[slot.position]? = some arg)
    (refused : ∀ v, slot.check.apply arg ≠ .ok v) :
    Offends args slot (.error (.typeMismatch slot.check.target.name arg.typeName))

theorem reads_or_offends (args : List Value) (slot : Slot) :
    (∃ v, slot.Reads args v) ∨ ∃ fault, slot.Offends args fault := by
  cases harg : args[slot.position]? with
  | none => exact .inr ⟨_, .outOfBounds (List.getElem?_eq_none_iff.mp harg)⟩
  | some arg =>
    cases hv : slot.check.apply arg with
    | ok v => exact .inl ⟨v, arg, harg, hv⟩
    | error e => exact .inr ⟨_, .mismatch harg fun v h => by rw [hv] at h; cases h⟩

theorem Reads.position_lt (h : slot.Reads args v) : slot.position < args.length := by
  obtain ⟨arg, harg, -⟩ := h
  exact (List.getElem?_eq_some_iff.mp harg).1

end Slot

/-! ### Marshalling -/

section Marshal

variable {args frame : List Value} {slot : Slot} {slots : List Slot} {v : Value}
  {fault : Fault DelegateError}

/-- A slot that reads a value adds it to the frame of the slots that follow. -/
theorem marshal_of_reads (h : slot.Reads args v) (slots : List Slot) :
    marshal args (slot :: slots) = (marshal args slots).map (v :: ·) := by
  obtain ⟨arg, harg, hv⟩ := h
  rw [marshal, harg]
  simp only [hv]
  cases marshal args slots <;> rfl

/-- A slot that offends ends the marshalling. -/
theorem marshal_of_offends (h : slot.Offends args fault) (slots : List Slot) :
    marshal args (slot :: slots) = .error fault := by
  rw [marshal]
  cases h with
  | outOfBounds past => rw [List.getElem?_eq_none past]
  | mismatch arg_eq refused =>
    rw [arg_eq]
    cases hv : slot.check.apply _ with
    | ok v => exact absurd hv (refused v)
    | error e => simp only [hv, Check.eq_of_apply_error hv]

/-- **A frame holds what the slots read**, one value for each. -/
theorem marshal_eq_ok_iff :
    marshal args slots = .ok frame ↔ List.Forall₂ (Slot.Reads args) slots frame := by
  induction slots generalizing frame with
  | nil =>
    rw [List.forall₂_nil_left_iff, marshal, Except.ok.injEq]
    exact eq_comm
  | cons slot slots ih =>
    rw [List.forall₂_cons_left_iff]
    constructor
    · intro h
      obtain ⟨v, hv⟩ | ⟨fault, hfault⟩ := slot.reads_or_offends args
      · rw [marshal_of_reads hv] at h
        cases hrest : marshal args slots with
        | error fault => rw [hrest] at h; cases h
        | ok rest =>
          rw [hrest] at h
          cases h
          exact ⟨v, rest, hv, ih.mp hrest, rfl⟩
      · rw [marshal_of_offends hfault] at h
        cases h
    · rintro ⟨v, rest, hv, hrest, rfl⟩
      rw [marshal_of_reads hv, ih.mpr hrest]
      rfl

/-- **There is a frame if every slot reads a value.** -/
theorem exists_marshal_iff :
    (∃ frame, marshal args slots = .ok frame) ↔ ∀ slot ∈ slots, ∃ v, slot.Reads args v := by
  simp only [marshal_eq_ok_iff]
  induction slots with
  | nil => exact iff_of_true ⟨[], .nil⟩ nofun
  | cons slot slots ih =>
    rw [List.forall_mem_cons, ← ih]
    constructor
    · rintro ⟨_, _ | ⟨hv, hrest⟩⟩
      exact ⟨⟨_, hv⟩, ⟨_, hrest⟩⟩
    · rintro ⟨⟨v, hv⟩, frame, hrest⟩
      exact ⟨v :: frame, .cons hv hrest⟩

/-- **Where there is no frame the first slot that offends is to blame.** -/
theorem marshal_eq_error_iff :
    marshal args slots = .error fault ↔ ∃ before slot after, slots = before ++ slot :: after ∧
      (∀ earlier ∈ before, ∃ v, earlier.Reads args v) ∧ slot.Offends args fault := by
  constructor
  · intro h
    induction slots with
    | nil => cases h
    | cons slot slots ih =>
      obtain ⟨v, hv⟩ | ⟨fault', hfault⟩ := slot.reads_or_offends args
      · rw [marshal_of_reads hv] at h
        cases hrest : marshal args slots with
        | ok frame => rw [hrest] at h; cases h
        | error fault' =>
          rw [hrest] at h
          cases h
          obtain ⟨before, offender, after, rfl, hbefore, hoffends⟩ := ih hrest
          exact ⟨slot :: before, offender, after, rfl, List.forall_mem_cons.mpr ⟨⟨v, hv⟩, hbefore⟩,
            hoffends⟩
      · rw [marshal_of_offends hfault] at h
        cases h
        exact ⟨[], slot, slots, rfl, nofun, hfault⟩
  · rintro ⟨before, slot, after, rfl, hbefore, hoffends⟩
    obtain ⟨frame, hframe⟩ := exists_marshal_iff.mpr hbefore
    rw [marshal_append_slots, hframe, marshal_of_offends hoffends]
    rfl

end Marshal

/-! ### Writing back -/

/-- The slot writes position `j` back. -/
def Slot.WritesAt (j : Nat) (slot : Slot) : Prop := slot.writesBack = true ∧ slot.position = j

instance (j : Nat) : DecidablePred (Slot.WritesAt j) :=
  fun slot => inferInstanceAs (Decidable (slot.writesBack = true ∧ slot.position = j))

/-- Of the slots that write position `j` back the one with number `k` is the last. -/
structure LastWriter (slots : List Slot) (j k : Nat) : Prop where
  writes : ∃ slot, slots[k]? = some slot ∧ slot.WritesAt j
  last : ∀ (l : Nat) (slot : Slot), k < l → slots[l]? = some slot → ¬ slot.WritesAt j

/-- What is left in a container after a frame has been written back to it.  A position holds the
frame value of the last slot that writes it back, and what it held before if there is no such slot.
-/
structure WrittenBack (slots : List Slot) (frame args left : List Value) : Prop where
  length_eq : left.length = args.length
  written : ∀ {j k}, LastWriter slots j k → left[j]? = frame[k]?
  kept : ∀ {j}, (∀ slot ∈ slots, ¬ slot.WritesAt j) → left[j]? = args[j]?

section WriteBack

variable {args frame left : List Value} {slot : Slot} {slots : List Slot} {v : Value} {j k : Nat}

theorem lastWriter_cons_zero :
    LastWriter (slot :: slots) j 0 ↔ slot.WritesAt j ∧ ∀ later ∈ slots, ¬ later.WritesAt j := by
  constructor
  · rintro ⟨⟨first, hfirst, hwrites⟩, hlast⟩
    cases hfirst
    refine ⟨hwrites, fun later hlater => ?_⟩
    obtain ⟨l, hl⟩ := List.mem_iff_getElem?.mp hlater
    exact hlast (l + 1) later (Nat.succ_pos l) hl
  · rintro ⟨hwrites, hnone⟩
    refine ⟨⟨slot, rfl, hwrites⟩, fun l later hl hlater => ?_⟩
    cases l with
    | zero => exact absurd hl (Nat.lt_irrefl 0)
    | succ l => exact hnone later (List.mem_of_getElem? hlater)

theorem lastWriter_cons_succ :
    LastWriter (slot :: slots) j (k + 1) ↔ LastWriter slots j k := by
  constructor
  · rintro ⟨hwrites, hlast⟩
    exact ⟨hwrites, fun l later hl => hlast (l + 1) later (Nat.succ_lt_succ hl)⟩
  · rintro ⟨hwrites, hlast⟩
    refine ⟨hwrites, fun l later hl hlater => ?_⟩
    cases l with
    | zero => exact absurd hl (Nat.not_lt_zero _)
    | succ l => exact hlast l later (Nat.lt_of_succ_lt_succ hl) hlater

/-- A position that is written back has a last slot that does so. -/
theorem lastWriter_or_none (slots : List Slot) (j : Nat) :
    (∃ k, LastWriter slots j k) ∨ ∀ slot ∈ slots, ¬ slot.WritesAt j := by
  induction slots with
  | nil => exact .inr nofun
  | cons slot slots ih =>
    obtain ⟨k, hlast⟩ | hnone := ih
    · exact .inl ⟨k + 1, lastWriter_cons_succ.mpr hlast⟩
    · by_cases hwrites : slot.WritesAt j
      · exact .inl ⟨0, lastWriter_cons_zero.mpr ⟨hwrites, hnone⟩⟩
      · exact .inr (List.forall_mem_cons.mpr ⟨hwrites, hnone⟩)

/-- Writing back through one slot, and then through the others. -/
theorem WrittenBack.cons (hslot : slot.position < args.length)
    (h : WrittenBack slots frame
      (if slot.writesBack then args.set slot.position v else args) left) :
    WrittenBack (slot :: slots) (v :: frame) args left where
  length_eq := h.length_eq.trans (length_set_if slot.writesBack args slot.position v)
  written := by
    intro j k hlast
    cases k with
    | zero =>
      obtain ⟨⟨hback, rfl⟩, hnone⟩ := lastWriter_cons_zero.mp hlast
      rw [h.kept hnone, if_pos hback, List.getElem?_set_self hslot]
      rfl
    | succ k => exact h.written (lastWriter_cons_succ.mp hlast)
  kept := by
    intro j hnone
    obtain ⟨hkeeps, hnone⟩ := List.forall_mem_cons.mp hnone
    rw [h.kept hnone]
    split
    · rename_i hback
      exact List.getElem?_set_ne fun hj => hkeeps ⟨hback, hj⟩
    · rfl

/-- **Writing back through slots that are in range.**  It is never out of range, and the last slot
of a position wins. -/
theorem exists_writeBack : ∀ {frame args : List Value}, frame.length = slots.length →
    (∀ slot ∈ slots, slot.position < args.length) →
      ∃ left, writeBack slots frame args = .ok left ∧ WrittenBack slots frame args left := by
  induction slots with
  | nil =>
    intro frame args hlen _
    obtain rfl := List.length_eq_zero_iff.mp hlen
    refine ⟨args, writeBack_nil [] args, rfl, ?_, fun _ => rfl⟩
    rintro j k ⟨⟨slot, hslot, -⟩, -⟩
    cases hslot
  | cons slot slots ih =>
    intro frame args hlen hroom
    obtain ⟨hslot, hslots⟩ := List.forall_mem_cons.mp hroom
    cases frame with
    | nil => cases hlen
    | cons v frame =>
      -- the container changes on the way, its length does not
      have hkeep := length_set_if slot.writesBack args slot.position v
      obtain ⟨left, hleft, hwritten⟩ := ih (Nat.succ.inj hlen) fun later hlater =>
        hkeep.symm ▸ hslots later hlater
      exact ⟨left, (writeBack_cons hslot v slots frame).trans hleft, hwritten.cons hslot⟩

/-- Among slots at different positions the last one that writes a position back is the only slot
there. -/
theorem LastWriter.eq_of_nodup (hpositions : (slots.map Slot.position).Nodup)
    (h : LastWriter slots j k) {l : Nat} (hl : slots[l]? = some slot) (hj : slot.position = j) :
    k = l := by
  obtain ⟨writer, hwriter, -, hposition⟩ := h.writes
  have hk : (slots.map Slot.position)[k]? = some j := by
    rw [List.getElem?_map, hwriter, Option.map_some, hposition]
  have hl : (slots.map Slot.position)[l]? = some j := by
    rw [List.getElem?_map, hl, Option.map_some, hj]
  have hrange := (List.getElem?_eq_some_iff.mp hk).1
  exact (List.getElem?_inj hrange hpositions).mp (hk.trans hl.symm)

/-- **Marshalling once more makes the same frame**, when the frame has been written back as it was
and no position is read twice.  What a slot reads then is the argument it read before, or that
argument converted, which its check leaves as it is. -/
theorem WrittenBack.marshal_again (hpositions : (slots.map Slot.position).Nodup)
    (hframe : marshal args slots = .ok frame) (h : WrittenBack slots frame args left) :
    marshal left slots = .ok frame := by
  rw [marshal_eq_ok_iff] at hframe ⊢
  refine List.forall₂_iff_get.mpr ⟨hframe.length_eq, fun l hl hl' => ?_⟩
  obtain ⟨arg, harg, hv⟩ := hframe.get hl hl'
  obtain ⟨k, hlast⟩ | hnone := lastWriter_or_none slots slots[l].position
  · obtain rfl := hlast.eq_of_nodup hpositions (List.getElem?_eq_getElem hl) rfl
    refine ⟨frame[k], ?_, Check.apply_again hv⟩
    exact (h.written hlast).trans (List.getElem?_eq_getElem hl')
  · exact ⟨arg, (h.kept hnone).trans harg, hv⟩

end WriteBack

/-- **Marshalling and writing back, for any slots.**  A frame is made if every slot is in range and
its check lets the value there pass, and holds what the slots read; else the first slot that
offends, in the order of the slots, says how the call ends.  Where a frame was made, any frame of
its length can be written back: the container keeps its length, and a position holds the value of
the last slot that writes it back, or what it held.  If no position is read twice, the frame itself
can be written back and marshalled once more, and is the same. -/
theorem slots_exact (slots : List Slot) (args : List Value) :
    ((∃ frame, marshal args slots = .ok frame) ↔ ∀ slot ∈ slots, ∃ v, slot.Reads args v) ∧
    (∀ frame, marshal args slots = .ok frame ↔ List.Forall₂ (Slot.Reads args) slots frame) ∧
    (∀ fault, marshal args slots = .error fault ↔
      ∃ before slot after, slots = before ++ slot :: after ∧
        (∀ earlier ∈ before, ∃ v, earlier.Reads args v) ∧ slot.Offends args fault) ∧
    ∀ frame, marshal args slots = .ok frame →
      (∀ frame' : List Value, frame'.length = frame.length →
        ∃ left, writeBack slots frame' args = .ok left ∧ WrittenBack slots frame' args left) ∧
      ((slots.map Slot.position).Nodup →
        ∃ left, writeBack slots frame args = .ok left ∧ marshal left slots = .ok frame) := by
  refine ⟨exists_marshal_iff, fun _ => marshal_eq_ok_iff, fun _ => marshal_eq_error_iff, ?_⟩
  intro frame hframe
  have hlength : slots.length = frame.length := (marshal_eq_ok_iff.mp hframe).length_eq
  have hroom : ∀ slot ∈ slots, slot.position < args.length := by
    intro slot hslot
    obtain ⟨v, hv⟩ := exists_marshal_iff.mp ⟨frame, hframe⟩ slot hslot
    exact hv.position_lt
  refine ⟨fun frame' hframe' => exists_writeBack (hframe'.trans hlength.symm) hroom, ?_⟩
  intro hpositions
  obtain ⟨left, hleft, hwritten⟩ := exists_writeBack hlength.symm hroom
  exact ⟨left, hleft, hwritten.marshal_again hpositions hframe⟩

/-- Slots out of order, two of which read the same position and write it back. -/
def aliasedSlots : List Slot :=
  [⟨1, .checked (.int .i64), true⟩, ⟨0, .checked .text, false⟩, ⟨1, .passthrough, true⟩]

def aliasedArgs : List Value :=
  [.ofCarrier .literal "a", .ofCarrier (.int .i32) (.wrap .i32 41)]

/-- A number is read twice, widened and as it is, and what the last slot says is written back.
With one slot more, past the end, there is no frame.  Without the last one no position is read
twice: the widened number takes the place of the other, and is marshalled again as it is. -/
theorem slots_exact_aliased :
    (∃ left, writeBack aliasedSlots [.null, .null, .text "b"] aliasedArgs = .ok left ∧
      left.length = 2 ∧ left[0]? = aliasedArgs[0]? ∧ left[1]? = some (.text "b")) ∧
    marshal aliasedArgs (aliasedSlots ++ [⟨2, .passthrough, false⟩]) = .error (.outOfBounds 2 2) ∧
    ∃ left, writeBack (aliasedSlots.take 2) [.ofCarrier (.int .i64) (.wrap .i64 41), .text "a"]
        aliasedArgs = .ok left ∧
      marshal left (aliasedSlots.take 2) =
        .ok [.ofCarrier (.int .i64) (.wrap .i64 41), .text "a"] := by
  have hread : ∀ slot ∈ aliasedSlots, ∃ v, slot.Reads aliasedArgs v := by
    simp only [aliasedSlots, List.forall_mem_cons]
    exact ⟨⟨_, _, rfl, rfl⟩, ⟨_, _, rfl, rfl⟩, ⟨_, _, rfl, rfl⟩, nofun⟩
  obtain ⟨hexists, hframe, -, hback⟩ := slots_exact aliasedSlots aliasedArgs
  obtain ⟨-, -, herror, -⟩ :=
    slots_exact (aliasedSlots ++ [⟨2, .passthrough, false⟩]) aliasedArgs
  obtain ⟨-, hfirst, -, hagain⟩ := slots_exact (aliasedSlots.take 2) aliasedArgs
  refine ⟨?_, ?_, ?_⟩
  · obtain ⟨frame, hmarshal⟩ := hexists.mpr hread
    have hlength : 3 = frame.length := ((hframe frame).mp hmarshal).length_eq
    obtain ⟨left, hleft, hwritten⟩ := (hback frame hmarshal).1 [.null, .null, .text "b"] hlength
    have hlast : LastWriter aliasedSlots 1 2 :=
      lastWriter_cons_succ.mpr (lastWriter_cons_succ.mpr
        (lastWriter_cons_zero.mpr ⟨⟨rfl, rfl⟩, nofun⟩))
    exact ⟨left, hleft, hwritten.length_eq, hwritten.kept (by decide), hwritten.written hlast⟩
  · exact (herror _).mpr ⟨aliasedSlots, _, [], rfl, hread, .outOfBounds (Nat.le_refl 2)⟩
  · have hmarshal := (hfirst [.ofCarrier (.int .i64) (.wrap .i64 41), .text "a"]).mpr
      (.cons ⟨_, rfl, rfl⟩ (.cons ⟨_, rfl, rfl⟩ .nil))
    exact (hagain _ hmarshal).2 (by decide)

end LateBinding
