import LateBinding.Proofs.Access
import LateBinding.Proofs.Ledger

/-!
# Copies: data that leave their cells

A datum that is copied out of a cell brings a handle more on every cell that it holds a handle on.
Given up again they leave the store as it was; and where the cell is freed that the datum was copied
from, the store is as if the datum had been moved out of it.

* `TypeTag.boxed?`, `TypeTag.held`, `TypeTag.mapHolding` — a datum of a type as it stands in a cell,
  the handles in it, and the datum with its inner values replaced;
* `Content.as?_eq_some_iff` — what is read from a cell is what is boxed to it;
* `Store.retainAll`, `Store.release_retainAll` — one handle more on each of some cells, and that
  giving them up undoes it;
* `Store.Owned.built_retainAll` — the handles of a copy are counted;
* `Store.Owned.release_copy_of_sole`, `Store.Owned.release_held_of_shared` — copying a datum and
  giving up the only handle on it is moving it, and a copy that is given up makes no difference.
-/

namespace LateBinding

/-! ### Data with handles -/

namespace TypeTag

variable {ν μ : Type}

/-- The datum with its inner values replaced. -/
def mapHolding (f : ν → μ) : (T : TypeTag) → T.Holding ν → T.Holding μ
  | .any, v => f v
  | .unit, _ => ()
  | .object, e => e
  | .leaf _, datum => datum
  | .optional, value? => value?.map f
  | .record _, fields => fields.map fun field => (field.1, field.2.map f)

/-- The datum as it stands in a cell.  A value is not boxed again, and the unit datum is null. -/
def boxed? : (T : TypeTag) → T.Holding ν → Option (Content ν)
  | .leaf l, datum => some (.leaf l datum)
  | .optional, value? => some (.optional value?)
  | .record path, fields => some (.record path fields)
  | .any, _ | .unit, _ | .object, _ => none

/-- The handles in a datum. -/
def held : (T : TypeTag) → T.Holding Ref → List Address
  | .any, ref => ref.toList
  | T, x => (T.boxed? x).elim [] Content.held

variable {T : TypeTag}

theorem exists_boxed? (hany : T ≠ .any) (hunit : T ≠ .unit) (x : T.Holding ν) :
    ∃ c, T.boxed? x = some c := by
  cases T with
  | any => exact absurd rfl hany
  | unit => exact absurd rfl hunit
  | object => exact nomatch x
  | leaf l => exact ⟨_, rfl⟩
  | optional => exact ⟨_, rfl⟩
  | record path => exact ⟨_, rfl⟩

theorem held_of_boxed? {x : T.Holding Ref} {c : Content Ref} (h : T.boxed? x = some c) :
    T.held x = c.held := by
  have helim : T.held x = (T.boxed? x).elim [] Content.held := by
    cases T with
    | any => cases h
    | unit | object | leaf | optional | record => rfl
  rw [helim, h]
  rfl

end TypeTag

namespace Content

variable {ν μ : Type} {T : TypeTag}

/-- **A datum is read from a cell just if it would be boxed to what stands there.** -/
theorem as?_eq_some_iff {c : Content ν} {x : T.Holding ν} :
    c.as? T = some x ↔ T.boxed? x = some c := by
  cases c with
  | leaf l datum =>
    cases T with
    | leaf l' =>
      by_cases hl : l = l'
      · subst hl
        rw [as?, dif_pos rfl, TypeTag.boxed?]
        simp only [Option.some.injEq, leaf.injEq, heq_eq_eq, true_and, eq_comm]
      · rw [as?, dif_neg hl]
        refine iff_of_false (fun h => by cases h) fun h => ?_
        cases h
        exact hl rfl
    | any | unit | object | optional | record =>
      exact iff_of_false (fun h => by cases h) fun h => by cases h
  | optional value? =>
    cases T with
    | optional =>
      rw [as?, TypeTag.boxed?, Option.some.injEq, Option.some.injEq, optional.injEq]
      exact eq_comm
    | any | unit | object | leaf | record =>
      exact iff_of_false (fun h => by cases h) fun h => by cases h
  | record path fields =>
    cases T with
    | record path' =>
      by_cases hpath : path = path'
      · subst hpath
        rw [as?, if_pos rfl, TypeTag.boxed?]
        simp only [Option.some.injEq, record.injEq, true_and, eq_comm]
      · rw [as?, if_neg hpath]
        refine iff_of_false (fun h => by cases h) fun h => ?_
        cases h
        exact hpath rfl
    | any | unit | object | leaf | optional =>
      exact iff_of_false (fun h => by cases h) fun h => by cases h

theorem as?_map (f : ν → μ) (T : TypeTag) (c : Content ν) :
    (c.map f).as? T = (c.as? T).map (T.mapHolding f) := by
  cases c with
  | leaf l datum =>
    cases T with
    | leaf l' =>
      simp only [map, as?]
      split <;> rfl
    | any | unit | object | optional | record => rfl
  | optional value? => cases T <;> rfl
  | record path fields =>
    cases T with
    | record path' =>
      simp only [map, as?]
      split <;> rfl
    | any | unit | object | leaf | optional => rfl

end Content

namespace Memory

variable {T : TypeTag}

theorem ofHolding_of_boxed? {μ ν : Type} (m : Memory μ ν) (u : μ) {x : T.Holding ν} {c : Content ν}
    (h : T.boxed? x = some c) : m.ofHolding u T x = m.box c u := by
  cases T <;> cases h <;> rfl

/-- What was boxed is there behind its handle. -/
theorem take_ofHolding (hT : T ≠ .unit) (s : Store) (x : T.Holding Ref) :
    shared.take (shared.ofHolding s T x).2 T (shared.ofHolding s T x).1 = some x := by
  by_cases hany : T = .any
  · subst hany
    rfl
  · obtain ⟨c, hc⟩ := TypeTag.exists_boxed? hany hT x
    have hread : (s.alloc c).2.read? (s.alloc c).1 = some c :=
      congrArg (Option.map Cell.content) (s.cell?_alloc_self c)
    rw [ofHolding_of_boxed? shared s hc, take_of_ne_any shared hany]
    show ((s.alloc c).2.read? (s.alloc c).1).bind _ = some x
    rw [hread]
    exact Content.as?_eq_some_iff.mpr hc

end Memory

namespace Store

variable {s : Store} {a b : Address} {cell : Cell} {held work roots : List Address} {ref : Ref}

/-! ### Handles taken and given up again -/

/-- One handle more on each of the cells. -/
def retainAll (s : Store) : List Address → Store
  | [] => s
  | a :: held => (s.retainAll held).retain (some a)

theorem retain_of_cell? (h : s.cell? a = some cell) :
    s.retain (some a) = s.put a (some { cell with owners := cell.owners + 1 }) := by
  rw [retain, h]

theorem put_put (s : Store) (a : Address) (old? new? : Option Cell) :
    (s.put a old?).put a new? = s.put a new? := by
  rw [put, put, put, List.set_set]

theorem put_of_cell? (h : s.cell? a = some cell) : s.put a (some cell) = s := by
  obtain ⟨hlt, hget⟩ := List.getElem?_eq_some_iff.mp (getElem?_of_cell? h)
  rw [put, ← hget, List.set_getElem_self]

theorem owners_pos_iff : 0 < s.owners a ↔ ∃ cell, s.cell? a = some cell ∧ 0 < cell.owners := by
  constructor
  · intro h
    obtain ⟨cell, hcell⟩ := live_of_owners h
    rw [owners_of_cell? hcell] at h
    exact ⟨cell, hcell, h⟩
  · rintro ⟨cell, hcell, hpos⟩
    rw [owners_of_cell? hcell]
    exact hpos

theorem owners_pos_retain (h : 0 < s.owners b) (ref : Ref) : 0 < (s.retain ref).owners b := by
  cases ref with
  | none => exact h
  | some a =>
    cases hcell : s.cell? a with
    | none =>
      rw [retain, hcell]
      exact h
    | some cell =>
      rw [retain_of_cell? hcell]
      by_cases hb : a = b
      · subst hb
        rw [owners, cell?_put_self (lt_of_cell? hcell)]
        exact Nat.succ_pos _
      · rw [owners, cell?_put_ne hb]
        exact h

theorem owners_pos_retainAll (h : 0 < s.owners b) (held : List Address) :
    0 < (s.retainAll held).owners b := by
  induction held with
  | nil => exact h
  | cons a held ih => exact owners_pos_retain ih (some a)

theorem release_cons (h : s.cell? a = some cell) (work : List Address) :
    s.release (a :: work) =
      if 1 < cell.owners then
        (s.put a (some { cell with owners := cell.owners - 1 })).release work
      else (s.put a none).release (cell.content.held ++ work) := by
  rw [release]
  split
  · rename_i hnone
    rw [h] at hnone
    cases hnone
  · rename_i cell' hcell'
    rw [h] at hcell'
    cases hcell'
    rfl

/-- A handle that is taken and given up again might as well not have been taken. -/
theorem release_retain (h : 0 < s.owners a) (work : List Address) :
    (s.retain (some a)).release (a :: work) = s.release work := by
  obtain ⟨cell, hcell, hpos⟩ := owners_pos_iff.mp h
  have hself : (s.put a (some { cell with owners := cell.owners + 1 })).cell? a =
      some { cell with owners := cell.owners + 1 } := cell?_put_self (lt_of_cell? hcell) _
  rw [retain_of_cell? hcell, release_cons hself, if_pos (Nat.succ_lt_succ hpos), put_put]
  exact congrArg (release · work) (put_of_cell? hcell)

/-- **Nor the handles of a copy that is given up.** -/
theorem release_retainAll (h : ∀ b ∈ held, 0 < s.owners b) (work : List Address) :
    (s.retainAll held).release (held ++ work) = s.release work := by
  induction held with
  | nil => rfl
  | cons a held ih =>
    have hfirst : 0 < (s.retainAll held).owners a :=
      owners_pos_retainAll (h a List.mem_cons_self) held
    rw [retainAll, List.cons_append, release_retain hfirst]
    exact ih fun b hb => h b (List.mem_cons_of_mem a hb)

theorem put_retain (h : a ≠ b) (s : Store) (new? : Option Cell) :
    (s.retain (some b)).put a new? = (s.put a new?).retain (some b) := by
  cases hcell : s.cell? b with
  | none => rw [retain, retain, cell?_put_ne h, hcell]
  | some cell =>
    rw [retain_of_cell? hcell, retain_of_cell? ((cell?_put_ne h _).trans hcell), put, put, put, put,
      List.set_comm _ _ (Ne.symm h)]

/-- A cell that is none of those does not matter to the handles on them. -/
theorem put_retainAll (h : a ∉ held) (s : Store) (new? : Option Cell) :
    (s.retainAll held).put a new? = (s.put a new?).retainAll held := by
  induction held with
  | nil => rfl
  | cons b held ih =>
    obtain ⟨hb, hheld⟩ := List.ne_and_not_mem_of_not_mem_cons h
    rw [retainAll, put_retain hb, ih hheld, retainAll]

theorem cell?_retainAll (h : a ∉ held) (s : Store) : (s.retainAll held).cell? a = s.cell? a := by
  induction held with
  | nil => rfl
  | cons b held ih =>
    obtain ⟨hb, hheld⟩ := List.ne_and_not_mem_of_not_mem_cons h
    rw [retainAll, ← ih hheld]
    cases hcell : (s.retainAll held).cell? b with
    | none => rw [retain, hcell]
    | some cell => rw [retain_of_cell? hcell, cell?_put_ne (Ne.symm hb)]

namespace Owned

theorem owners_pos (h : s.Owned roots) (hb : s.Live b) : 0 < s.owners b := by
  obtain ⟨cell, hcell⟩ := hb
  exact owners_pos_iff.mpr ⟨cell, hcell, h.counted.positive hcell⟩

/-- **The handles of a copy are counted.** -/
theorem built_retainAll (h : s.Owned roots) (hlive : ∀ b ∈ held, s.Live b) :
    s.Built (s.retainAll held) roots held := by
  induction held with
  | nil => exact ⟨h, .refl s⟩
  | cons a held ih =>
    have hrest := ih fun b hb => hlive b (List.mem_cons_of_mem a hb)
    obtain ⟨cell, hcell⟩ := hlive a List.mem_cons_self
    obtain ⟨cell', hcell', -⟩ := hrest.grows a cell hcell
    have hstill : ∀ b ∈ (some a : Ref), (s.retainAll held).Live b := by
      intro b hb
      cases hb
      exact ⟨cell', hcell'⟩
    have hfirst := hrest.owned.built_retain hstill
    exact ⟨hfirst.owned, hrest.grows.trans hfirst.grows⟩

section Copied

variable (h : s.Owned roots) (hcell : s.cell? a = some cell)

include h hcell

/-- A datum holds no handle on its own cell. -/
theorem not_mem_held : a ∉ cell.content.held := by
  obtain ⟨rank, hrank⟩ := h.ranked
  rw [← heldAt_of_cell? hcell]
  exact fun ha => Nat.lt_irrefl _ (hrank.descends ha)

/-- The cells that a datum holds handles on are there, whatever becomes of its own. -/
theorem owners_pos_of_held (new? : Option Cell) :
    ∀ b ∈ cell.content.held, 0 < (s.put a new?).owners b := by
  intro b hb
  have hne : a ≠ b := fun hab => h.not_mem_held hcell (hab ▸ hb)
  rw [owners, cell?_put_ne hne]
  exact h.owners_pos (h.live (.inr ⟨a, by rwa [heldAt_of_cell? hcell]⟩))

/-- A datum is copied without a change to its own cell. -/
theorem cell?_copy : (s.retainAll cell.content.held).cell? a = some cell :=
  (cell?_retainAll (h.not_mem_held hcell) s).trans hcell

/-- **A datum that is moved out of its cell is one that is copied, with its only owner gone.** -/
theorem release_copy_of_sole (hsole : cell.owners = 1) :
    (s.retainAll cell.content.held).release [a] = s.put a none := by
  have hnot : ¬ 1 < cell.owners := Nat.not_lt_of_le (Nat.le_of_eq hsole)
  rw [release_cons (h.cell?_copy hcell), if_neg hnot, put_retainAll (h.not_mem_held hcell),
    release_retainAll (h.owners_pos_of_held hcell none), Store.release]

/-- **A copy that is given up leaves what giving the handle up would have left**, where others have
handles on the datum. -/
theorem release_held_of_shared (hshared : 1 < cell.owners) :
    ((s.retainAll cell.content.held).release [a]).release cell.content.held = s.release [a] := by
  have hback := release_retainAll
    (h.owners_pos_of_held hcell (some { cell with owners := cell.owners - 1 })) []
  rw [List.append_nil, Store.release] at hback
  rw [release_cons (h.cell?_copy hcell), if_pos hshared, Store.release,
    put_retainAll (h.not_mem_held hcell), hback, release_cons hcell, if_pos hshared, Store.release]

end Copied

end Owned

end Store

end LateBinding
