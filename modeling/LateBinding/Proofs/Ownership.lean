import Mathlib.Algebra.Order.BigOperators.Group.Finset
import LateBinding.Proofs.Scope

/-!
# Ownership: every handle is counted

A cell is owned by the variables that hold a handle on it and by the data that do.  The number it
keeps is how many there are; no chain of handles comes back to where it started.

* `Store.owners`, `Store.heldAt`, `Store.inward` — the number a cell keeps, the handles in its
  datum, and how many handles in data are on it;
* `Store.Counted` — the numbers are right, for given handles outside the store;
* `Store.Ranked` — an order of the cells in which data hold handles on lower cells only;
* `Store.Owned` — both;
* `Store.Owned.retain`, `Store.Owned.release`, `Store.Owned.alloc`, `Store.Owned.overwrite` —
  handles come and go, new cells are made, and a cell nobody else holds gets a new datum.
-/

namespace LateBinding

open Finset

namespace Store

variable {s s' : Store} {roots roots' work : List Address} {a b : Address} {cell : Cell}
  {content : Content Ref} {rank : Address → Nat}

/-! ### What a cell keeps and holds -/

/-- The number of handles a cell keeps. -/
def ownersOf : Option Cell → Nat
  | none => 0
  | some cell => cell.owners

/-- The handles in the datum of a cell. -/
def heldOf : Option Cell → List Address
  | none => []
  | some cell => cell.content.held

def owners (s : Store) (a : Address) : Nat := ownersOf (s.cell? a)

def heldAt (s : Store) (a : Address) : List Address := heldOf (s.cell? a)

/-- How many of the handles in data are on a cell. -/
def inward (s : Store) (b : Address) : Nat := ∑ a ∈ range s.cells.length, (s.heldAt a).count b

/-- There is a cell at the address. -/
def Live (s : Store) (a : Address) : Prop := ∃ cell, s.cell? a = some cell

theorem owners_of_cell? (h : s.cell? a = some cell) : s.owners a = cell.owners :=
  congrArg ownersOf h

theorem heldAt_of_cell? (h : s.cell? a = some cell) : s.heldAt a = cell.content.held :=
  congrArg heldOf h

theorem cell?_of_length_le (h : s.cells.length ≤ a) : s.cell? a = none := by
  rw [Store.cell?, List.getElem?_eq_none h]
  rfl

theorem live_of_owners (h : 0 < s.owners b) : s.Live b := by
  cases hcell : s.cell? b with
  | none =>
    rw [owners, hcell] at h
    exact absurd h (Nat.lt_irrefl 0)
  | some cell => exact ⟨cell, hcell⟩

/-- A cell that holds a handle on `b` is one of those `Store.inward` counts. -/
theorem count_heldAt_le (s : Store) (a b : Address) : (s.heldAt a).count b ≤ s.inward b := by
  rcases Nat.lt_or_ge a s.cells.length with ha | ha
  · exact single_le_sum (f := fun a => (s.heldAt a).count b) (fun _ _ => Nat.zero_le _)
      (mem_range.mpr ha)
  · rw [heldAt, cell?_of_length_le ha]
    exact Nat.zero_le _

theorem inward_pos_iff : 0 < s.inward b ↔ ∃ a, b ∈ s.heldAt a := by
  constructor
  · intro h
    obtain ⟨a, -, ha⟩ := exists_ne_zero_of_sum_ne_zero (Nat.ne_of_gt h)
    exact ⟨a, List.count_pos_iff.mp (Nat.pos_of_ne_zero ha)⟩
  · rintro ⟨a, ha⟩
    exact Nat.lt_of_lt_of_le (List.count_pos_iff.mpr ha) (s.count_heldAt_le a b)

/-- What is put in the place of a cell brings its own handles. -/
theorem inward_put (ha : a < s.cells.length) (new? : Option Cell) (b : Address) :
    (s.put a new?).inward b + (s.heldAt a).count b = s.inward b + (heldOf new?).count b := by
  have hmem : a ∈ range s.cells.length := mem_range.mpr ha
  have hself : (s.put a new?).heldAt a = heldOf new? := congrArg heldOf (cell?_put_self ha new?)
  have hothers : ∑ c ∈ (range s.cells.length).erase a, ((s.put a new?).heldAt c).count b =
      ∑ c ∈ (range s.cells.length).erase a, (s.heldAt c).count b := by
    refine sum_congr rfl fun c hc => ?_
    rw [heldAt, cell?_put_ne (ne_of_mem_erase hc).symm, ← heldAt]
  have hnew : (s.put a new?).inward b = (heldOf new?).count b +
      ∑ c ∈ (range s.cells.length).erase a, (s.heldAt c).count b := by
    rw [inward, length_put, ← add_sum_erase _ _ hmem, hself, hothers]
  have hold : s.inward b = (s.heldAt a).count b +
      ∑ c ∈ (range s.cells.length).erase a, (s.heldAt c).count b :=
    (add_sum_erase _ (fun c => (s.heldAt c).count b) hmem).symm
  rw [hnew, hold]
  omega

theorem inward_alloc (s : Store) (content : Content Ref) (b : Address) :
    (s.alloc content).2.inward b = content.held.count b + s.inward b := by
  have hself : (s.alloc content).2.heldAt s.cells.length = content.held :=
    heldAt_of_cell? (s.cell?_alloc_self content)
  have hothers : ∀ c ∈ range s.cells.length,
      ((s.alloc content).2.heldAt c).count b = (s.heldAt c).count b := by
    intro c hc
    rw [heldAt, cell?_alloc_ne (Nat.ne_of_lt (mem_range.mp hc)), ← heldAt]
  rw [inward, length_alloc, sum_range_succ, hself, sum_congr rfl hothers, ← inward, Nat.add_comm]

/-! ### Counted handles -/

/-- The handles in `roots` and those in data are all there are. -/
structure Counted (s : Store) (roots : List Address) : Prop where
  owners_eq : ∀ b, s.owners b = roots.count b + s.inward b
  positive : ∀ {b cell}, s.cell? b = some cell → 0 < cell.owners

theorem Counted.perm (h : s.Counted roots) (hperm : roots.Perm roots') : s.Counted roots' where
  owners_eq b := by rw [← hperm.count_eq, h.owners_eq]
  positive := h.positive

/-- A handle outside the store is on a cell that exists. -/
theorem Counted.live (h : s.Counted roots) (hb : b ∈ roots) : s.Live b := by
  have hcount := List.count_pos_iff.mpr hb
  have howners := h.owners_eq b
  exact live_of_owners (by omega)

/-- So is a handle in a datum. -/
theorem Counted.live_of_held (h : s.Counted roots) (hb : b ∈ s.heldAt a) : s.Live b := by
  have hinward := inward_pos_iff.mpr ⟨a, hb⟩
  have howners := h.owners_eq b
  exact live_of_owners (by omega)

/-- The handles that go into a new datum are exchanged for one on its cell. -/
theorem Counted.alloc (h : s.Counted (content.held ++ roots)) :
    (s.alloc content).2.Counted (s.cells.length :: roots) where
  owners_eq := by
    intro b
    have hold := h.owners_eq b
    rw [List.count_append] at hold
    rw [inward_alloc]
    by_cases hb : b = s.cells.length
    · -- there was no cell, hence no handle on it either
      have hnone : s.owners b = 0 := congrArg ownersOf (cell?_of_length_le (Nat.le_of_eq hb.symm))
      have hone : (s.alloc content).2.owners b = 1 := by
        rw [hb]
        exact owners_of_cell? (s.cell?_alloc_self content)
      rw [hone, ← hb, List.count_cons_self]
      omega
    · rw [owners, cell?_alloc_ne hb, ← owners, List.count_cons_of_ne (Ne.symm hb)]
      omega
  positive := by
    intro b cell hcell
    by_cases hb : b = s.cells.length
    · rw [hb, cell?_alloc_self] at hcell
      cases hcell
      exact Nat.one_pos
    · rw [cell?_alloc_ne hb] at hcell
      exact h.positive hcell

/-- **A cell is replaced or freed.**  What it held is held elsewhere now, what the new one holds was
held elsewhere before, and the new one keeps the right number. -/
theorem Counted.put (h : s.Counted roots) (ha : s.cell? a = some cell) {new? : Option Cell}
    (hpos : ∀ new, new? = some new → 0 < new.owners)
    (hself : ownersOf new? + (roots.count a + cell.content.held.count a) =
      cell.owners + (roots'.count a + (heldOf new?).count a))
    (hothers : ∀ b, b ≠ a → roots.count b + cell.content.held.count b =
      roots'.count b + (heldOf new?).count b) : (s.put a new?).Counted roots' where
  owners_eq := by
    intro b
    have hlt := lt_of_cell? ha
    have hinward := inward_put hlt new? b
    have hold := h.owners_eq b
    rw [heldAt_of_cell? ha] at hinward
    by_cases hb : b = a
    · subst hb
      rw [owners_of_cell? ha] at hold
      rw [owners, cell?_put_self hlt]
      omega
    · have hothers := hothers b hb
      rw [owners, cell?_put_ne (Ne.symm hb), ← owners]
      omega
  positive := by
    intro b cell' hcell'
    by_cases hb : b = a
    · rw [hb, cell?_put_self (lt_of_cell? ha)] at hcell'
      exact hpos cell' hcell'
    · rw [cell?_put_ne (Ne.symm hb)] at hcell'
      exact h.positive hcell'

theorem Counted.retain {ref : Ref} (h : s.Counted roots) (href : ∀ a ∈ ref, s.Live a) :
    (s.retain ref).Counted (ref.toList ++ roots) := by
  cases ref with
  | none => exact h
  | some a =>
    obtain ⟨cell, hcell⟩ := href a rfl
    have hstep : s.retain (some a) = s.put a (some { cell with owners := cell.owners + 1 }) := by
      rw [Store.retain, hcell]
    rw [hstep]
    refine h.put hcell ?_ ?_ fun b hb => ?_
    · rintro _ ⟨⟩
      exact Nat.succ_pos _
    · show cell.owners + 1 + _ = cell.owners + (List.count a (a :: roots) + _)
      simp only [List.count_cons_self, heldOf]
      omega
    · show _ = List.count b (a :: roots) + _
      simp only [List.count_cons_of_ne (Ne.symm hb), heldOf]

/-- **Handles that are given up are gone**, and those of the data freed with them. -/
theorem Counted.release (h : s.Counted (work ++ roots)) : (s.release work).Counted roots := by
  fun_induction Store.release s work with
  | case1 s => exact h
  | case2 s a work hnone ih =>
    obtain ⟨cell, hcell⟩ := h.live (b := a) (by simp)
    rw [hnone] at hcell
    cases hcell
  | case3 s a work cell hcell howners ih =>
    refine ih (h.put hcell ?_ ?_ fun b hb => ?_)
    · rintro _ ⟨⟩
      exact Nat.sub_pos_of_lt howners
    · simp only [List.cons_append, List.count_cons_self, ownersOf, heldOf]
      omega
    · simp only [List.cons_append, List.count_cons_of_ne (Ne.symm hb), heldOf]
  | case4 s a work cell hcell howners ih =>
    have hone : cell.owners = 1 := by
      have hpos := h.positive hcell
      omega
    refine ih (h.put hcell (fun new hnew => by cases hnew) ?_ fun b hb => ?_)
    · simp only [List.cons_append, List.count_cons_self, List.count_append, List.count_nil, hone,
        ownersOf, heldOf]
      omega
    · simp only [List.cons_append, List.count_cons_of_ne (Ne.symm hb), List.count_append,
        List.count_nil, heldOf]
      omega

/-- The handles of a new datum are exchanged for those of the datum whose place it takes. -/
theorem Counted.overwrite (h : s.Counted (content.held ++ roots)) (ha : s.cell? a = some cell)
    (hsole : cell.owners = 1) :
    (s.put a (some ⟨1, content⟩)).Counted (cell.content.held ++ roots) := by
  refine h.put ha ?_ ?_ fun b _ => ?_
  · rintro _ ⟨⟩
    exact Nat.one_pos
  · simp only [List.count_append, hsole, ownersOf, heldOf]
    omega
  · simp only [List.count_append, heldOf]
    omega

/-! ### Ranked cells -/

/-- No two cells have the same rank, and data hold handles on cells of lower rank. -/
structure Ranked (s : Store) (rank : Address → Nat) : Prop where
  lt_length : ∀ {a cell}, s.cell? a = some cell → rank a < s.cells.length
  injective : ∀ {a b cell cell'}, s.cell? a = some cell → s.cell? b = some cell' →
    rank a = rank b → a = b
  descends : ∀ {a b}, b ∈ s.heldAt a → rank b < rank a

theorem Keeps.heldAt {s' : Store} (h : s.Keeps s') (hb : b ∈ s'.heldAt a) : b ∈ s.heldAt a := by
  cases hcell' : s'.cell? a with
  | none =>
    rw [Store.heldAt, hcell'] at hb
    cases hb
  | some cell' =>
    obtain ⟨cell, hcell, heq⟩ := h.content_eq hcell'
    rw [heldAt_of_cell? hcell, heq, ← heldAt_of_cell? hcell']
    exact hb

theorem Ranked.keeps (h : s.Ranked rank) (hkeeps : s.Keeps s') : s'.Ranked rank where
  lt_length := by
    intro a cell' hcell'
    obtain ⟨cell, hcell, -⟩ := hkeeps.content_eq hcell'
    rw [hkeeps.length_eq]
    exact h.lt_length hcell
  injective := by
    intro a b _ _ ha' hb' heq
    obtain ⟨_, ha, -⟩ := hkeeps.content_eq ha'
    obtain ⟨_, hb, -⟩ := hkeeps.content_eq hb'
    exact h.injective ha hb heq
  descends hb := h.descends (hkeeps.heldAt hb)

theorem exists_cell?_of_mem_heldAt (h : b ∈ s.heldAt a) :
    ∃ cell, s.cell? a = some cell ∧ b ∈ cell.content.held := by
  cases hcell : s.cell? a with
  | none =>
    rw [heldAt, hcell] at h
    cases h
  | some cell =>
    rw [heldAt_of_cell? hcell] at h
    exact ⟨cell, rfl, h⟩

/-- A new cell ranks above all others. -/
theorem Ranked.alloc (h : s.Ranked rank)
    (hlive : ∀ b, b ∈ content.held ∨ (∃ a, b ∈ s.heldAt a) → s.Live b) :
    (s.alloc content).2.Ranked fun a => if a = s.cells.length then s.cells.length else rank a where
  lt_length := by
    intro a cell hcell
    rw [length_alloc]
    by_cases ha : a = s.cells.length
    · rw [if_pos ha]
      omega
    · rw [cell?_alloc_ne ha] at hcell
      have hlt := h.lt_length hcell
      rw [if_neg ha]
      omega
  injective := by
    intro a b cell cell' hcell hcell' heq
    by_cases ha : a = s.cells.length <;> by_cases hb : b = s.cells.length
    · rw [ha, hb]
    · rw [cell?_alloc_ne hb] at hcell'
      have hlt := h.lt_length hcell'
      rw [if_pos ha, if_neg hb] at heq
      omega
    · rw [cell?_alloc_ne ha] at hcell
      have hlt := h.lt_length hcell
      rw [if_neg ha, if_pos hb] at heq
      omega
    · rw [cell?_alloc_ne ha] at hcell
      rw [cell?_alloc_ne hb] at hcell'
      rw [if_neg ha, if_neg hb] at heq
      exact h.injective hcell hcell' heq
  descends := by
    intro a b hheld
    by_cases ha : a = s.cells.length
    · rw [ha, heldAt_of_cell? (s.cell?_alloc_self content)] at hheld
      obtain ⟨cell, hcell⟩ := hlive b (.inl hheld)
      rw [if_pos ha, if_neg (Nat.ne_of_lt (lt_of_cell? hcell))]
      exact h.lt_length hcell
    · rw [heldAt, cell?_alloc_ne ha, ← heldAt] at hheld
      obtain ⟨cell, hcell⟩ := hlive b (.inr ⟨a, hheld⟩)
      rw [if_neg ha, if_neg (Nat.ne_of_lt (lt_of_cell? hcell))]
      exact h.descends hheld

/-- The ranks after the cell `a` has been moved above the `n - 1` others. -/
def raise (rank : Address → Nat) (a : Address) (n : Nat) (b : Address) : Nat :=
  if b = a then n - 1 else if rank a < rank b then rank b - 1 else rank b

theorem raise_self (rank : Address → Nat) (a : Address) (n : Nat) : raise rank a n a = n - 1 :=
  if_pos rfl

theorem raise_of_ne (h : b ≠ a) (rank : Address → Nat) (n : Nat) :
    raise rank a n b = if rank a < rank b then rank b - 1 else rank b := if_neg h

/-- A cell on which no datum holds a handle may rank above all others, and then hold any of them. -/
theorem Ranked.overwrite (h : s.Ranked rank) (ha : s.cell? a = some cell)
    (hunheld : ∀ c, a ∉ s.heldAt c) (hnew : a ∉ content.held)
    (hlive : ∀ b ∈ content.held, s.Live b) (hheld : ∀ b c, c ∈ s.heldAt b → s.Live c) :
    (s.put a (some ⟨1, content⟩)).Ranked (raise rank a s.cells.length) := by
  have hapart : ∀ {b cell'}, b ≠ a → s.cell? b = some cell' → rank b ≠ rank a :=
    fun hb hcell heq => hb (h.injective hcell ha heq)
  have htop : rank a < s.cells.length := h.lt_length ha
  have hbelow : ∀ {b cell'}, b ≠ a → s.cell? b = some cell' →
      raise rank a s.cells.length b < s.cells.length - 1 := by
    intro b cell' hb hcell
    have hlt := h.lt_length hcell
    have hne := hapart hb hcell
    rw [raise_of_ne hb]
    split <;> omega
  refine ⟨?_, ?_, ?_⟩
  · intro b cell' hcell'
    rw [length_put]
    by_cases hb : b = a
    · rw [hb, raise_self]
      omega
    · rw [cell?_put_ne (Ne.symm hb)] at hcell'
      have hlt := hbelow hb hcell'
      omega
  · intro b c cell' cell'' hcell' hcell'' heq
    by_cases hb : b = a <;> by_cases hc : c = a
    · rw [hb, hc]
    · rw [cell?_put_ne (Ne.symm hc)] at hcell''
      have hlt := hbelow hc hcell''
      rw [← heq, hb, raise_self] at hlt
      omega
    · rw [cell?_put_ne (Ne.symm hb)] at hcell'
      have hlt := hbelow hb hcell'
      rw [heq, hc, raise_self] at hlt
      omega
    · rw [cell?_put_ne (Ne.symm hb)] at hcell'
      rw [cell?_put_ne (Ne.symm hc)] at hcell''
      have hneb := hapart hb hcell'
      have hnec := hapart hc hcell''
      rw [raise_of_ne hb, raise_of_ne hc] at heq
      refine h.injective hcell' hcell'' ?_
      split at heq <;> split at heq <;> omega
  · intro b c hc
    by_cases hb : b = a
    · -- the cell that was raised
      rw [hb, heldAt, cell?_put_self (lt_of_cell? ha)] at hc
      obtain ⟨cell', hcell'⟩ := hlive c hc
      rw [hb, raise_self]
      exact hbelow (fun hca => hnew (hca ▸ hc)) hcell'
    · rw [heldAt, cell?_put_ne (Ne.symm hb), ← heldAt] at hc
      obtain ⟨cellb, hcellb, -⟩ := exists_cell?_of_mem_heldAt hc
      obtain ⟨cellc, hcellc⟩ := hheld b c hc
      have hca : c ≠ a := fun hca => hunheld b (hca ▸ hc)
      have hlt := h.descends hc
      have hneb := hapart hb hcellb
      have hnec := hapart hca hcellc
      rw [raise_of_ne hb, raise_of_ne hca]
      split <;> split <;> omega

/-! ### Both -/

/-- Every handle is counted, the ones outside the store being `roots`, and no chain of handles comes
back to where it started. -/
structure Owned (s : Store) (roots : List Address) : Prop where
  counted : s.Counted roots
  ranked : ∃ rank, s.Ranked rank

theorem owned_empty : Store.Owned {} [] where
  counted := ⟨fun _ => rfl, fun hcell => by cases hcell⟩
  ranked := by
    refine ⟨id, ?_, ?_, ?_⟩
    · intro a cell hcell
      cases hcell
    · intro a b cell cell' hcell
      cases hcell
    · intro a b hb
      cases hb

namespace Owned

theorem perm (h : s.Owned roots) (hperm : roots.Perm roots') : s.Owned roots' :=
  ⟨h.counted.perm hperm, h.ranked⟩

/-- The handles outside the store and those in data are on cells that exist. -/
theorem live (h : s.Owned roots) (hb : b ∈ roots ∨ ∃ a, b ∈ s.heldAt a) : s.Live b := by
  rcases hb with hb | ⟨a, hb⟩
  · exact h.counted.live hb
  · exact h.counted.live_of_held hb

theorem live_of_mem {ref : Ref} (h : s.Owned roots) (href : ∀ a ∈ ref, a ∈ roots) :
    ∀ a ∈ ref, s.Live a := fun a ha => h.live (.inl (href a ha))

theorem retain {ref : Ref} (h : s.Owned roots) (href : ∀ a ∈ ref, s.Live a) :
    (s.retain ref).Owned (ref.toList ++ roots) where
  counted := h.counted.retain href
  ranked := h.ranked.imp fun _ hrank => hrank.keeps (s.keeps_retain ref)

theorem release (h : s.Owned (work ++ roots)) : (s.release work).Owned roots where
  counted := h.counted.release
  ranked := h.ranked.imp fun _ hrank => hrank.keeps (s.keeps_release work)

theorem alloc (h : s.Owned (content.held ++ roots)) :
    (s.alloc content).2.Owned (s.cells.length :: roots) where
  counted := h.counted.alloc
  ranked := by
    obtain ⟨rank, hrank⟩ := h.ranked
    refine ⟨_, hrank.alloc fun b hb => h.live ?_⟩
    exact hb.imp_left fun hheld => List.mem_append_left roots hheld

/-- The cell of a single owner outside the store is held by no datum, be it one that is there or a
new one. -/
theorem not_held (h : s.Owned (content.held ++ roots)) (ha : s.cell? a = some cell)
    (hsole : cell.owners = 1) (hroot : a ∈ roots) : a ∉ content.held ∧ ∀ b, a ∉ s.heldAt b := by
  have howners := h.counted.owners_eq a
  have hcount := List.count_pos_iff.mpr hroot
  rw [owners_of_cell? ha, hsole, List.count_append] at howners
  constructor
  · intro hheld
    have hpos := List.count_pos_iff.mpr hheld
    omega
  · intro b hb
    have hinward := inward_pos_iff.mpr ⟨b, hb⟩
    omega

/-- **A cell of a single owner, outside the store, may get a new datum.** -/
theorem overwrite (h : s.Owned (content.held ++ roots)) (ha : s.cell? a = some cell)
    (hsole : cell.owners = 1) (hroot : a ∈ roots) :
    (s.put a (some ⟨1, content⟩)).Owned (cell.content.held ++ roots) where
  counted := h.counted.overwrite ha hsole
  ranked := by
    obtain ⟨rank, hrank⟩ := h.ranked
    obtain ⟨hnew, hunheld⟩ := h.not_held ha hsole hroot
    refine ⟨_, hrank.overwrite ha hunheld hnew (fun b hb => ?_) fun b c hc => ?_⟩
    · exact h.live (.inl (List.mem_append_left roots hb))
    · exact h.live (.inr ⟨b, hc⟩)

end Owned

end Store

end LateBinding
