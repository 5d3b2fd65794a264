import Mathlib.Logic.Relation
import LateBinding.Proofs.Ownership

/-!
# Identity: values whose data bear stamps

Two handles may be on one datum or on two that look the same.  A value tells them apart once every
datum in it bears a stamp, the address of its cell.

* `Content.map`, `Content.inner` — a datum with other inner values, and its inner values;
* `Stamped`, `Stamped.plain`, `Stamped.stamps` — the values, without their stamps, and the stamps in
  them;
* `Store.stamped`, `Store.view_eq` — the value behind a handle, which is the plain one but for its
  stamps;
* `Store.Owned.stamped_some`, `Store.Owned.stamped_congr` — it is made of the datum in the cell and
  of what is behind the handles in it, and depends on no other cell;
* `Store.Owned.mem_stamps_iff`, `Store.Owned.exists_root` — the stamps in it are the cells that can
  be reached, and every cell can be reached from outside the store;
* `Store.Owned.owners_eq_one_iff` — a cell has a single owner if no other value bears its stamp.
-/

namespace LateBinding

variable {ν μ ξ : Type}

/-! ### Inner values -/

namespace Field

def map (f : ν → μ) : Field ν → Field μ
  | plain kind datum => plain kind datum
  | held v => held (f v)

def value? : Field ν → Option ν
  | plain _ _ => none
  | held v => some v

end Field

namespace Content

/-- The datum with its inner values replaced. -/
def map (f : ν → μ) : Content ν → Content μ
  | leaf kind datum => leaf kind datum
  | optional value? => optional (value?.map f)
  | record path fields => record path (fields.map fun field => (field.1, field.2.map f))

def inner : Content ν → List ν
  | leaf _ _ => []
  | optional value? => value?.toList
  | record _ fields => fields.filterMap fun field => field.2.value?

variable {f : ν → μ} {c : Content ν}

theorem tag_map (f : ν → μ) (c : Content ν) : (c.map f).tag = c.tag := by
  cases c <;> rfl

theorem inner_map (f : ν → μ) (c : Content ν) : (c.map f).inner = c.inner.map f := by
  have hfield : ∀ field : Field ν, (field.map f).value? = field.value?.map f := by
    intro field
    cases field <;> rfl
  cases c with
  | leaf kind datum => rfl
  | optional value? => cases value? <;> rfl
  | record path fields =>
    simp only [map, inner, List.filterMap_map, List.map_filterMap, Function.comp_def, hfield]

theorem map_map (g : μ → ξ) (f : ν → μ) (c : Content ν) : (c.map f).map g = c.map (g ∘ f) := by
  have hfield : ∀ field : Field ν, (field.map f).map g = field.map (g ∘ f) := by
    intro field
    cases field <;> rfl
  cases c with
  | leaf kind datum => rfl
  | optional value? => cases value? <;> rfl
  | record path fields => simp only [map, List.map_map, Function.comp_def, hfield]

theorem map_congr {g : ν → μ} (h : ∀ v ∈ c.inner, f v = g v) : c.map f = c.map g := by
  cases c with
  | leaf kind datum => rfl
  | optional value? =>
    cases value? with
    | none => rfl
    | some v => exact congrArg (fun w => optional (some w)) (h v (List.mem_singleton.mpr rfl))
  | record path fields =>
    refine congrArg (record path) (List.map_congr_left fun field hfield => ?_)
    obtain ⟨name, field⟩ := field
    cases field with
    | plain kind datum => rfl
    | held v =>
      have hinner : v ∈ (record path fields).inner :=
        List.mem_filterMap.mpr ⟨_, hfield, rfl⟩
      exact congrArg (fun w => (name, Field.held w)) (h v hinner)

theorem widen?_map (T : TypeTag) (f : ν → μ) (c : Content ν) :
    (c.map f).widen? T = (c.widen? T).map (Content.map f) := by
  cases c with
  | leaf kind datum =>
    cases T with
    | leaf l =>
      show (kind.widening? l).map _ = Option.map _ ((kind.widening? l).map _)
      rw [Option.map_map]
      rfl
    | _ => rfl
  | optional _ => rfl
  | record _ _ => rfl

/-- The handles in a datum are those among its inner values that are not null. -/
theorem mem_held_iff {c : Content Ref} {a : Address} : a ∈ c.held ↔ some a ∈ c.inner := by
  cases c with
  | leaf kind datum => exact iff_of_false List.not_mem_nil List.not_mem_nil
  | optional ref? =>
    rw [held_optional, inner, Option.mem_toList, Option.mem_toList]
    cases ref? <;> simp
  | record path fields =>
    rw [held_record, inner, List.mem_filterMap, List.mem_filterMap]
    refine exists_congr fun field => and_congr_right fun _ => ?_
    cases field.2 <;> simp [Field.handle?, Field.value?]

end Content

def Retyped.map (f : ν → μ) : Retyped ν → Retyped μ
  | kept => kept
  | fresh content => fresh (content.map f)

/-- Coercion does not depend on inner values. -/
theorem retype_map (T : TypeTag) (f : ν → μ) (content? : Option (Content ν)) :
    retype T (content?.map (Content.map f)) = (retype T content?).map (Retyped.map f) := by
  by_cases hT : T = .any
  · simp only [retype, if_pos hT, Option.map_some, Retyped.map]
  cases content? with
  | none => simp only [retype, if_neg hT, Option.map_none]
  | some c =>
    simp only [retype, if_neg hT, Option.map_some, Content.tag_map, Content.widen?_map]
    by_cases hc : c.tag = T
    · simp only [if_pos hc, Option.map_some, Retyped.map]
    · rw [if_neg hc, if_neg hc, Option.map_map, Option.map_map]
      rfl

/-! ### Stamped values -/

/-- A value in which every boxed datum bears a stamp. -/
inductive Stamped where
  | null
  | boxed (stamp : Address) (content : Content Stamped)

namespace Stamped

variable {β : Type} (null : β) (boxed : Address → Content β → β)

mutual

/-- Compute along a value, from the inside out. -/
def fold : Stamped → β
  | .null => null
  | .boxed stamp content => boxed stamp (foldContent content)

def foldContent : Content Stamped → Content β
  | .leaf kind datum => .leaf kind datum
  | .optional value? => .optional (foldOption value?)
  | .record path fields => .record path (foldFields fields)

def foldOption : Option Stamped → Option β
  | none => none
  | some v => some (fold v)

def foldFields : List (String × Field Stamped) → List (String × Field β)
  | [] => []
  | field :: fields => foldNamed field :: foldFields fields

def foldNamed : String × Field Stamped → String × Field β
  | (name, field) => (name, foldField field)

def foldField : Field Stamped → Field β
  | .plain kind datum => .plain kind datum
  | .held v => .held (fold v)

end

theorem foldContent_eq (content : Content Stamped) :
    foldContent null boxed content = content.map (fold null boxed) := by
  have hfield : ∀ field, foldField null boxed field = field.map (fold null boxed) := by
    intro field
    cases field <;> rfl
  cases content with
  | leaf kind datum => rfl
  | optional value? => cases value? <;> rfl
  | record path fields =>
    refine congrArg (Content.record path) ?_
    induction fields with
    | nil => rfl
    | cons field fields ih =>
      obtain ⟨name, field⟩ := field
      rw [foldFields, ih, foldNamed, hfield]
      rfl

theorem fold_boxed (stamp : Address) (content : Content Stamped) :
    fold null boxed (.boxed stamp content) = boxed stamp (content.map (fold null boxed)) := by
  rw [fold, foldContent_eq]

/-- The value without its stamps. -/
def plain : Stamped → Value := fold .null fun _ content => .boxed content

/-- All stamps in a value, those of inner values included. -/
def stamps : Stamped → List Address := fold [] fun stamp content => stamp :: content.inner.flatten

/-- The stamp of the datum itself. -/
def stamp? : Stamped → Option Address
  | .null => none
  | .boxed stamp _ => some stamp

def content? : Stamped → Option (Content Stamped)
  | .null => none
  | .boxed _ content => some content

theorem plain_boxed (stamp : Address) (content : Content Stamped) :
    plain (.boxed stamp content) = .boxed (content.map plain) := fold_boxed ..

theorem content?_plain (v : Stamped) : v.plain.content? = v.content?.map (Content.map plain) := by
  cases v with
  | null => rfl
  | boxed stamp content =>
    rw [plain_boxed]
    rfl

theorem not_mem_stamps_null (a : Address) : a ∉ Stamped.null.stamps := List.not_mem_nil

theorem mem_stamps_boxed {a stamp : Address} {content : Content Stamped} :
    a ∈ stamps (.boxed stamp content) ↔ a = stamp ∨ ∃ v ∈ content.inner, a ∈ v.stamps := by
  rw [stamps, fold_boxed, ← stamps, List.mem_cons, Content.inner_map, List.mem_flatten]
  simp only [List.mem_map, exists_exists_and_eq_and]

end Stamped

namespace Store

variable {s s' s'' : Store} {roots roots' work : List Address} {a b : Address} {cell : Cell}
  {content : Content Ref} {ref : Ref} {rank : Address → Nat}

/-- The value behind a handle with the addresses of its data, looking at most `depth` handles
deep. -/
def stampedTo (s : Store) : (depth : Nat) → Ref → Stamped
  | 0, _ => .null
  | _ + 1, none => .null
  | depth + 1, some a =>
    match s.cell? a with
    | none => .null
    | some cell => .boxed a (cell.content.map (stampedTo s depth))

def stamped (s : Store) (ref : Ref) : Stamped := s.stampedTo (s.cells.length + 1) ref

theorem stampedTo_none (s : Store) (depth : Nat) : s.stampedTo depth none = .null := by
  cases depth <;> rfl

theorem stamped_none (s : Store) : s.stamped none = .null := rfl

theorem viewTo_eq (s : Store) (depth : Nat) (ref : Ref) :
    s.viewTo depth ref = (s.stampedTo depth ref).plain := by
  induction depth generalizing ref with
  | zero => rfl
  | succ depth ih =>
    have hplain : s.viewTo depth = Stamped.plain ∘ s.stampedTo depth := funext ih
    cases ref with
    | none => rfl
    | some a =>
      rw [viewTo, stampedTo, read?, Option.bind_some]
      cases s.cell? a with
      | none => rfl
      | some cell =>
        rw [Option.map_some]
        simp only
        rw [Stamped.plain_boxed, Content.map_map, ← hplain]
        cases cell.content with
        | leaf kind datum => rfl
        | optional ref? => rfl
        | record path fields =>
          refine congrArg (fun fields => Value.boxed (.record path fields)) ?_
          refine List.map_congr_left fun field _ => ?_
          obtain ⟨name, field⟩ := field
          cases field <;> rfl

/-- **What is seen behind a handle** are the stamped values without their stamps. -/
theorem view_eq (s : Store) (ref : Ref) : s.view ref = (s.stamped ref).plain := s.viewTo_eq _ ref

/-! ### What is behind a handle -/

/-- Looking as deep as the rank of a cell is enough. -/
theorem Ranked.stampedTo_eq (h : s.Ranked rank) {depth depth' : Nat} (hdepth : rank a < depth)
    (hdepth' : rank a < depth') : s.stampedTo depth (some a) = s.stampedTo depth' (some a) := by
  induction depth generalizing a depth' with
  | zero => exact absurd hdepth (Nat.not_lt_zero _)
  | succ depth ih =>
    cases depth' with
    | zero => exact absurd hdepth' (Nat.not_lt_zero _)
    | succ depth' =>
      rw [stampedTo, stampedTo]
      cases hcell : s.cell? a with
      | none => rfl
      | some cell =>
        refine congrArg (Stamped.boxed a) (Content.map_congr fun ref href => ?_)
        cases ref with
        | none => rw [stampedTo_none, stampedTo_none]
        | some b =>
          have hheld : b ∈ s.heldAt a := by
            rw [heldAt_of_cell? hcell]
            exact Content.mem_held_iff.mpr href
          have hlt := h.descends hheld
          exact ih (by omega) (by omega)

namespace Owned

/-- **The value behind a handle** is made of the datum in the cell and of what is behind the handles
in that datum. -/
theorem stamped_some (h : s.Owned roots) (ha : s.cell? a = some cell) :
    s.stamped (some a) = .boxed a (cell.content.map s.stamped) := by
  obtain ⟨rank, hrank⟩ := h.ranked
  rw [stamped, stampedTo, ha]
  refine congrArg (Stamped.boxed a) (Content.map_congr fun ref href => ?_)
  cases ref with
  | none => rw [stampedTo_none, stamped_none]
  | some b =>
    have hheld : b ∈ s.heldAt a := by
      rw [heldAt_of_cell? ha]
      exact Content.mem_held_iff.mpr href
    have hlt := hrank.descends hheld
    have hle := hrank.lt_length ha
    exact hrank.stampedTo_eq (by omega) (by omega)

theorem stamp?_stamped (h : s.Owned roots) (href : ∀ a ∈ ref, s.Live a) :
    (s.stamped ref).stamp? = ref := by
  cases ref with
  | none => rfl
  | some a =>
    obtain ⟨cell, hcell⟩ := href a rfl
    rw [h.stamped_some hcell]
    rfl

theorem content?_stamped (h : s.Owned roots) (ref : Ref)
    (href : ∀ a ∈ ref, s.Live a) :
    (s.stamped ref).content? = (s.read? ref).map (Content.map s.stamped) := by
  cases ref with
  | none => rfl
  | some a =>
    obtain ⟨cell, hcell⟩ := href a rfl
    rw [h.stamped_some hcell, read?, Option.bind_some, hcell]
    rfl

/-- **The value behind a handle depends on the cells that are reached only.**  Two stores that have
the same data in cells `D`, which hold handles on cells `D` only, show the same values there. -/
theorem stamped_congr (h : s.Owned roots) (h' : s'.Owned roots') {D : Address → Prop}
    (hD : ∀ a, D a → ∃ cell cell', s.cell? a = some cell ∧ s'.cell? a = some cell' ∧
      cell'.content = cell.content ∧ ∀ b ∈ cell.content.held, D b)
    (href : ∀ a ∈ ref, D a) : s'.stamped ref = s.stamped ref := by
  obtain ⟨rank, hrank⟩ := h.ranked
  have hdeep : ∀ depth a, rank a < depth → D a → s'.stamped (some a) = s.stamped (some a) := by
    intro depth
    induction depth with
    | zero => exact fun a hlt => absurd hlt (Nat.not_lt_zero _)
    | succ depth ih =>
      intro a hlt ha
      obtain ⟨cell, cell', hcell, hcell', heq, hheld⟩ := hD a ha
      rw [h.stamped_some hcell, h'.stamped_some hcell', heq]
      refine congrArg (Stamped.boxed a) (Content.map_congr fun ref href => ?_)
      cases ref with
      | none => rfl
      | some b =>
        have hb := Content.mem_held_iff.mpr href
        have hdown : rank b < rank a := hrank.descends (by rwa [heldAt_of_cell? hcell])
        exact ih b (by omega) (hheld b hb)
  cases ref with
  | none => rfl
  | some a => exact hdeep _ a (Nat.lt_succ_self _) (href a rfl)

end Owned

/-! ### Data that stay -/

/-- The data of `s` are still there. -/
def Grows (s s' : Store) : Prop :=
  ∀ a cell, s.cell? a = some cell → ∃ cell', s'.cell? a = some cell' ∧ cell'.content = cell.content

theorem Grows.refl (s : Store) : s.Grows s := fun _ cell hcell => ⟨cell, hcell, rfl⟩

theorem Grows.trans (h : s.Grows s') (h' : s'.Grows s'') : s.Grows s'' := by
  intro a cell hcell
  obtain ⟨cell', hcell', heq'⟩ := h a cell hcell
  obtain ⟨cell'', hcell'', heq''⟩ := h' a cell' hcell'
  exact ⟨cell'', hcell'', heq''.trans heq'⟩

theorem grows_alloc (s : Store) (content : Content Ref) : s.Grows (s.alloc content).2 := by
  intro a cell hcell
  refine ⟨cell, ?_, rfl⟩
  rw [cell?_alloc_ne (Nat.ne_of_lt (lt_of_cell? hcell)), hcell]

theorem grows_retain (s : Store) (ref : Ref) : s.Grows (s.retain ref) := by
  cases ref with
  | none => exact .refl s
  | some a =>
    rw [retain]
    split
    · rename_i cell hcell
      intro b cellb hcellb
      by_cases hb : a = b
      · subst hb
        rw [hcell] at hcellb
        cases hcellb
        exact ⟨_, cell?_put_self (lt_of_cell? hcell) _, rfl⟩
      · exact ⟨cellb, (cell?_put_ne hb _).trans hcellb, rfl⟩
    · exact .refl s

theorem Keeps.grows (h : s.Keeps s') : s'.Grows s := by
  intro a cell hcell
  obtain ⟨cell, hcell, heq⟩ := h.content_eq hcell
  exact ⟨cell, hcell, heq⟩

theorem Owned.stamped_of_grows (h : s.Owned roots) (h' : s'.Owned roots') (hgrows : s.Grows s')
    (href : ∀ a ∈ ref, s.Live a) : s'.stamped ref = s.stamped ref := by
  refine h.stamped_congr h' (D := s.Live) ?_ href
  rintro a ⟨cell, hcell⟩
  obtain ⟨cell', hcell', heq⟩ := hgrows a cell hcell
  refine ⟨cell, cell', hcell, hcell', heq, fun b hb => ?_⟩
  exact h.live (.inr ⟨a, by rwa [heldAt_of_cell? hcell]⟩)

/-- A new datum is seen as it was made, with its address for a stamp. -/
theorem Owned.stamped_alloc (h : s.Owned (content.held ++ roots)) :
    (s.alloc content).2.stamped (s.alloc content).1 =
      .boxed s.cells.length (content.map s.stamped) := by
  show (s.alloc content).2.stamped (some s.cells.length) = _
  rw [h.alloc.stamped_some (s.cell?_alloc_self content)]
  refine congrArg _ (Content.map_congr fun ref href => ?_)
  refine h.stamped_of_grows h.alloc (s.grows_alloc content) fun a ha => ?_
  rw [Option.mem_def] at ha
  rw [ha] at href
  exact h.live (.inl (List.mem_append_left roots (Content.mem_held_iff.mpr href)))

/-! ### Handles given up, data overwritten -/

/-- What is behind the handles that are left is seen as before. -/
theorem Owned.stamped_release (h : s.Owned (work ++ roots))
    (href : ∀ a ∈ ref, a ∈ roots) : (s.release work).stamped ref = s.stamped ref :=
  (h.release.stamped_of_grows h (s.keeps_release work).grows (h.release.live_of_mem href)).symm

theorem isUnique_iff : s.isUnique (some a) = true ↔ s.owners a = 1 := by
  rw [isUnique, Option.bind_some, owners]
  cases s.cell? a with
  | none => exact iff_of_false Bool.false_ne_true Nat.zero_ne_one
  | some cell => exact decide_eq_true_iff

/-- The store after the datum in the cell `a` has been replaced, and the handles in the old one
given up. -/
def overwrite (s : Store) (a : Address) (old new : Content Ref) : Store :=
  (s.put a (some ⟨1, new⟩)).release old.held

section Overwrite

variable (h : s.Owned (content.held ++ roots)) (ha : s.cell? a = some cell)
  (hsole : cell.owners = 1) (hroot : a ∈ roots)

include h ha hsole hroot

theorem Owned.overwrite_owned : (s.overwrite a cell.content content).Owned roots :=
  (h.overwrite ha hsole hroot).release

/-- Away from the cell that is written to, everything is seen as before. -/
theorem Owned.stamped_overwrite_ne
    (href : ∀ b ∈ ref, b ≠ a ∧ (s.overwrite a cell.content content).Live b) :
    (s.overwrite a cell.content content).stamped ref = s.stamped ref := by
  have howned := h.overwrite_owned ha hsole hroot
  refine (howned.stamped_congr h
    (D := fun b => b ≠ a ∧ (s.overwrite a cell.content content).Live b) ?_ href).symm
  rintro b ⟨hb, cell', hcell'⟩
  obtain ⟨cellb, hcellb, heq⟩ := (keeps_release _ _).content_eq hcell'
  rw [cell?_put_ne (Ne.symm hb)] at hcellb
  refine ⟨cell', cellb, hcell', hcellb, heq, fun c hc => ⟨?_, ?_⟩⟩
  · rintro rfl
    refine (h.not_held ha hsole hroot).2 b ?_
    rw [heldAt_of_cell? hcellb, heq]
    exact hc
  · exact howned.live (.inr ⟨b, by rwa [heldAt_of_cell? hcell']⟩)

/-- The cell that is written to shows the new datum, and bears the old stamp. -/
theorem Owned.stamped_overwrite_self :
    (s.overwrite a cell.content content).stamped (some a) = .boxed a (content.map s.stamped) := by
  have howned := h.overwrite_owned ha hsole hroot
  obtain ⟨cell', hcell'⟩ := howned.live (.inl hroot)
  have hcontent : cell'.content = content := by
    obtain ⟨cella, hcella, heq⟩ := (keeps_release _ _).content_eq hcell'
    rw [cell?_put_self (lt_of_cell? ha)] at hcella
    cases hcella
    exact heq.symm
  rw [howned.stamped_some hcell', hcontent]
  refine congrArg _ (Content.map_congr fun ref href => ?_)
  refine h.stamped_overwrite_ne ha hsole hroot fun b hb => ?_
  rw [Option.mem_def] at hb
  rw [hb] at href
  have hheld : b ∈ content.held := Content.mem_held_iff.mpr href
  constructor
  · rintro rfl
    exact (h.not_held ha hsole hroot).1 hheld
  · refine howned.live (.inr ⟨a, ?_⟩)
    rw [heldAt_of_cell? hcell', hcontent]
    exact hheld

end Overwrite

/-! ### What is reached -/

/-- The datum in the cell `a` holds a handle on `b`. -/
def Holds (s : Store) (a b : Address) : Prop := b ∈ s.heldAt a

open Relation

theorem Ranked.le_of_reach (h : s.Ranked rank) (hreach : ReflTransGen s.Holds a b) :
    rank b ≤ rank a := by
  induction hreach with
  | refl => exact Nat.le_refl _
  | tail _ hc ih => exact Nat.le_trans (Nat.le_of_lt (h.descends hc)) ih

namespace Owned

/-- **The stamps in a value are the cells that can be reached.** -/
theorem mem_stamps_iff (h : s.Owned roots) (ha : s.Live a) :
    b ∈ (s.stamped (some a)).stamps ↔ ReflTransGen s.Holds a b := by
  have hstep : ∀ {a cell}, s.cell? a = some cell → (b ∈ (s.stamped (some a)).stamps ↔
      b = a ∨ ∃ c, s.Holds a c ∧ b ∈ (s.stamped (some c)).stamps) := by
    intro a cell hcell
    rw [h.stamped_some hcell, Stamped.mem_stamps_boxed, Content.inner_map]
    refine or_congr_right ⟨?_, ?_⟩
    · rintro ⟨v, hv, hb⟩
      obtain ⟨ref, href, rfl⟩ := List.mem_map.mp hv
      cases ref with
      | none => cases hb
      | some c =>
        refine ⟨c, ?_, hb⟩
        rw [Holds, heldAt_of_cell? hcell]
        exact Content.mem_held_iff.mpr href
    · rintro ⟨c, hc, hb⟩
      rw [Holds, heldAt_of_cell? hcell] at hc
      exact ⟨_, List.mem_map_of_mem (Content.mem_held_iff.mp hc), hb⟩
  constructor
  · obtain ⟨rank, hrank⟩ := h.ranked
    intro hb
    induction hn : rank a using Nat.strong_induction_on generalizing a with
    | h n ih =>
      obtain ⟨cell, hcell⟩ := ha
      rcases (hstep hcell).mp hb with rfl | ⟨c, hc, hbc⟩
      · exact .refl
      · have hlt : rank c < n := hn ▸ hrank.descends hc
        exact .head hc (ih _ hlt (h.live (.inr ⟨a, hc⟩)) hbc rfl)
  · intro hreach
    induction hreach using ReflTransGen.head_induction_on with
    | refl =>
      obtain ⟨cell, hcell⟩ := ha
      exact (hstep hcell).mpr (.inl rfl)
    | @head a c hac hcb ih =>
      obtain ⟨cell, hcell⟩ := ha
      exact (hstep hcell).mpr (.inr ⟨c, hac, ih (h.live (.inr ⟨a, hac⟩))⟩)

theorem live_of_mem_stamps (h : s.Owned roots) (ha : s.Live a)
    (hb : b ∈ (s.stamped (some a)).stamps) : s.Live b := by
  rcases ReflTransGen.cases_tail ((h.mem_stamps_iff ha).mp hb) with rfl | ⟨c, -, hc⟩
  · exact ha
  · exact h.live (.inr ⟨c, hc⟩)

/-- **Every cell can be reached from outside the store**: none is left behind that nobody holds. -/
theorem exists_root (h : s.Owned roots) (ha : s.cell? a = some cell) :
    ∃ r ∈ roots, ReflTransGen s.Holds r a := by
  obtain ⟨rank, hrank⟩ := h.ranked
  induction hn : s.cells.length - rank a using Nat.strong_induction_on generalizing a cell with
  | h n ih =>
    have howners := h.counted.owners_eq a
    have hpos := h.counted.positive ha
    rw [owners_of_cell? ha] at howners
    by_cases hroot : a ∈ roots
    · exact ⟨a, hroot, .refl⟩
    · -- a datum holds it, in a cell of higher rank
      rw [List.count_eq_zero_of_not_mem hroot] at howners
      obtain ⟨c, hc⟩ := inward_pos_iff.mp (by omega : 0 < s.inward a)
      obtain ⟨cellc, hcellc, -⟩ := exists_cell?_of_mem_heldAt hc
      have hup := hrank.descends hc
      have hlt := hrank.lt_length hcellc
      obtain ⟨r, hr, hreach⟩ := ih _ (by omega) hcellc rfl
      exact ⟨r, hr, hreach.tail hc⟩

/-- **A cell has a single owner if its stamp stands in no other value** that is held outside the
store, be it as the datum itself or somewhere inside. -/
theorem owners_eq_one_iff (h : s.Owned (a :: roots)) :
    s.owners a = 1 ↔ ∀ b ∈ roots, a ∉ (s.stamped (some b)).stamps := by
  obtain ⟨rank, hrank⟩ := h.ranked
  have howners := h.counted.owners_eq a
  have hlive : ∀ b ∈ roots, s.Live b := fun b hb =>
    h.live (.inl (List.mem_cons_of_mem a hb))
  rw [List.count_cons_self] at howners
  constructor
  · intro hone b hb hmem
    have hcount : roots.count a = 0 := by omega
    have hinward : s.inward a = 0 := by omega
    rcases ReflTransGen.cases_tail ((h.mem_stamps_iff (hlive b hb)).mp hmem) with rfl | ⟨c, -, hc⟩
    · exact List.count_eq_zero.mp hcount hb
    · exact absurd (inward_pos_iff.mpr ⟨c, hc⟩) (by omega)
  · intro hnone
    have hcount : roots.count a = 0 := by
      refine List.count_eq_zero.mpr fun ha => hnone a ha ?_
      exact (h.mem_stamps_iff (hlive a ha)).mpr .refl
    have hinward : ¬ 0 < s.inward a := by
      intro hpos
      obtain ⟨c, hc⟩ := inward_pos_iff.mp hpos
      obtain ⟨cellc, hcellc, -⟩ := exists_cell?_of_mem_heldAt hc
      obtain ⟨r, hr, hreach⟩ := h.exists_root hcellc
      rcases List.mem_cons.mp hr with rfl | hr
      · -- the cell would be reached from itself
        have hle := hrank.le_of_reach hreach
        have hlt := hrank.descends hc
        omega
      · exact hnone r hr ((h.mem_stamps_iff (hlive r hr)).mpr (hreach.tail hc))
    omega

end Owned

end Store

end LateBinding
