import LateBinding.Proofs.Copies
import LateBinding.Proofs.Sharing

/-!
# Readers: three ways to take a datum out of a value

A datum is copied out of a value, or copied out if it is of the right type, or the value is given up
for it; then the datum is moved out by its only owner, and copied by any other.  Whichever way it is
read, the same is read, and boxing it again gives the value it came from.

* `Value.ReadAlike`, `Value.readAlike` — the three readers on plain values;
* `Store.fromValue`, `Store.takeValue`, `Store.fromExact?` — the readers on shared data;
* `Store.Owned.takeValue_eq` — to give a handle up for the datum is to copy the datum and then to
  give the handle up, whoever else holds one;
* `Store.Owned.map_fromValue`, `Store.Owned.view_fromValue`, `Store.Owned.view_ofHolding` — what is
  read is what the value that is seen is read as, nobody else notices, and boxing gives the value
  again;
* `Store.ReadAlike`, `Store.Owned.readAlike` — all that the readers on shared data do;
* `Pool.Takes` — the step of a pool that takes a value is a reader of shared data;
* `readers_agree` — the readers agree, and undo boxing.
-/

namespace LateBinding

/-! ### Plain values -/

namespace Value

/-- The three readers agree on a value.  They read it if every value can be read or it is of the
type asked for, and then the same; and they fail with the same mismatch. -/
structure ReadAlike (T : TypeTag) (v : Value) : Prop where
  isSome_iff : (v.fromExact? T).isSome ↔ T = .any ∨ v.tag? = some T
  fromValue_iff : ∀ x, v.fromValue T = .ok x ↔ v.fromExact? T = some x
  takeValue_iff : ∀ x, v.takeValue T = .ok x ↔ v.fromExact? T = some x
  error_eq : v.fromExact? T = none →
    v.fromValue T = .error (.typeMismatch T.name v.typeName) ∧
      v.takeValue T = .error (.typeMismatch T.name v.typeName)

theorem isSome_fromExact?_iff {T : TypeTag} {v : Value} :
    (v.fromExact? T).isSome ↔ T = .any ∨ v.tag? = some T := by
  constructor
  · intro h
    obtain ⟨x, hx⟩ := Option.isSome_iff_exists.mp h
    by_cases hT : T = .any
    · exact .inl hT
    · exact .inr (tag?_of_fromExact? hx hT)
  · rintro (rfl | htag)
    · rfl
    · obtain ⟨x, hx⟩ := fromExact?_of_tag? htag
      rw [hx]
      rfl

/-- What cannot be read exactly is a mismatch. -/
theorem fromValue_of_fromExact?_none {T : TypeTag} {v : Value} (h : v.fromExact? T = none) :
    v.fromValue T = .error (v.mismatch T) := by
  have hT : T ≠ .any := by
    rintro rfl
    cases h
  rw [fromExact?_of_ne_any hT] at h
  rw [fromValue_of_ne_any hT, extract, h]

/-- **The readers agree on every value.** -/
theorem readAlike (T : TypeTag) (v : Value) : v.ReadAlike T where
  isSome_iff := isSome_fromExact?_iff
  fromValue_iff _ := fromValue_eq_ok_iff
  takeValue_iff _ := by rw [takeValue_eq_fromValue, fromValue_eq_ok_iff]
  error_eq h := by
    rw [takeValue_eq_fromValue]
    exact ⟨fromValue_of_fromExact?_none h, fromValue_of_fromExact?_none h⟩

end Value

namespace Store

variable {s : Store} {a b : Address} {cell : Cell} {roots : List Address} {ref : Ref}

/-! ### Readers on shared data -/

/-- The mismatch of the type asked for and the type of the datum behind a handle. -/
def mismatch (s : Store) (T : TypeTag) (ref : Ref) : BindError :=
  .typeMismatch T.name (Value.nameOfTag? ((s.read? ref).map Content.tag))

/-- Free the cell of a handle, but not the handles in its datum. -/
def vacate (s : Store) : Ref → Store
  | none => s
  | some a => s.put a none

/-- Copy the datum behind a handle, if it is of type `T`; the handles in it are shared.  At the type
of all values the handle itself is copied. -/
def fromExact? (s : Store) (T : TypeTag) (ref : Ref) : Option (T.Holding Ref) × Store :=
  match Memory.shared.take s T ref with
  | some x => (some x, s.retainAll (T.held x))
  | none => (none, s)

/-- Copy the datum behind a handle. -/
def fromValue (s : Store) (T : TypeTag) (ref : Ref) : Except BindError (T.Holding Ref) × Store :=
  match Memory.shared.take s T ref with
  | some x => (.ok x, s.retainAll (T.held x))
  | none => (.error (s.mismatch T ref), s)

/-- Give a handle up for the datum behind it.  A single owner moves the datum out of its cell, and
any other copies it.  At the type of all values the handle is handed on. -/
def takeValue (s : Store) (T : TypeTag) (ref : Ref) : Except BindError (T.Holding Ref) × Store :=
  match Memory.shared.take s T ref with
  | some x =>
    if T = .any then (.ok x, s)
    else if s.isUnique ref then (.ok x, s.vacate ref)
    else (.ok x, (s.retainAll (T.held x)).releaseRef ref)
  | none => (.error (s.mismatch T ref), s.releaseRef ref)

variable {T : TypeTag} {x : T.Holding Ref}

/-- What is read at another type than that of all values is the datum of a cell. -/
theorem exists_cell?_of_take (hT : T ≠ .any) (h : Memory.shared.take s T ref = some x) :
    ∃ a cell, ref = some a ∧ s.cell? a = some cell ∧ T.boxed? x = some cell.content := by
  rw [Memory.take_of_ne_any _ hT] at h
  obtain ⟨content, hread, hx⟩ := Option.bind_eq_some_iff.mp h
  obtain ⟨a, rfl, hcontent⟩ := Option.bind_eq_some_iff.mp hread
  obtain ⟨cell, hcell, heq⟩ := Option.map_eq_some_iff.mp hcontent
  rw [← heq] at hx
  exact ⟨a, cell, rfl, hcell, Content.as?_eq_some_iff.mp hx⟩

theorem fromValue_of_take (hx : Memory.shared.take s T ref = some x) :
    s.fromValue T ref = (.ok x, s.retainAll (T.held x)) := by
  rw [fromValue, hx]

theorem fromValue_of_none (hx : Memory.shared.take s T ref = none) :
    s.fromValue T ref = (.error (s.mismatch T ref), s) := by
  rw [fromValue, hx]

theorem takeValue_of_none (hx : Memory.shared.take s T ref = none) :
    s.takeValue T ref = (.error (s.mismatch T ref), s.releaseRef ref) := by
  rw [takeValue, hx]

theorem fromValue_eq_ok_iff :
    (s.fromValue T ref).1 = .ok x ↔ Memory.shared.take s T ref = some x := by
  rw [fromValue]
  cases Memory.shared.take s T ref with
  | none => exact iff_of_false (fun h => by cases h) (fun h => by cases h)
  | some y => simp only [Except.ok.injEq, Option.some.injEq]

/-- How a datum is taken: handed on, moved out of its cell, or copied. -/
theorem takeValue_cases (hx : Memory.shared.take s T ref = some x) :
    (T = .any ∧ s.takeValue T ref = (.ok x, s)) ∨
    ∃ a cell, ref = some a ∧ s.cell? a = some cell ∧ T.held x = cell.content.held ∧
      (cell.owners = 1 ∧ s.takeValue T ref = (.ok x, s.put a none) ∨
        cell.owners ≠ 1 ∧
          s.takeValue T ref = (.ok x, (s.retainAll cell.content.held).release [a])) := by
  rw [takeValue, hx]
  by_cases hT : T = .any
  · exact .inl ⟨hT, if_pos hT⟩
  · obtain ⟨a, cell, rfl, hcell, hboxed⟩ := exists_cell?_of_take hT hx
    have hheld := TypeTag.held_of_boxed? hboxed
    have hunique : s.isUnique (some a) = true ↔ cell.owners = 1 := by
      rw [isUnique_iff, owners_of_cell? hcell]
    refine .inr ⟨a, cell, rfl, hcell, hheld, ?_⟩
    simp only [if_neg hT, hheld]
    by_cases hsole : cell.owners = 1
    · exact .inl ⟨hsole, if_pos (hunique.mpr hsole)⟩
    · exact .inr ⟨hsole, if_neg (mt hunique.mp hsole)⟩

theorem takeValue_fst (s : Store) (T : TypeTag) (ref : Ref) :
    (s.takeValue T ref).1 = (s.fromValue T ref).1 := by
  cases hx : Memory.shared.take s T ref with
  | none => rw [takeValue_of_none hx, fromValue_of_none hx]
  | some x =>
    rw [fromValue_of_take hx]
    rcases takeValue_cases hx with ⟨-, htake⟩ | ⟨a, cell, -, -, -, ⟨-, htake⟩ | ⟨-, htake⟩⟩
    · rw [htake]
    · rw [htake]
    · rw [htake]

theorem fromExact?_eq (s : Store) (T : TypeTag) (ref : Ref) :
    s.fromExact? T ref = ((s.fromValue T ref).1.toOption, (s.fromValue T ref).2) := by
  rw [fromExact?, fromValue]
  cases Memory.shared.take s T ref <;> rfl

namespace Owned

/-- The handles in what is read are on cells that exist. -/
theorem live_of_take (h : s.Owned roots) (href : ∀ a ∈ ref, s.Live a)
    (hx : Memory.shared.take s T ref = some x) : ∀ b ∈ T.held x, s.Live b := by
  by_cases hT : T = .any
  · subst hT
    cases hx
    intro b hb
    exact href b (Option.mem_toList.mp hb)
  · obtain ⟨a, cell, -, hcell, hboxed⟩ := exists_cell?_of_take hT hx
    rw [TypeTag.held_of_boxed? hboxed, ← heldAt_of_cell? hcell]
    intro b hb
    exact h.live (.inr ⟨a, hb⟩)

/-- **To give a handle up for the datum is to copy the datum, and then to give the handle up.** -/
theorem takeValue_eq (h : s.Owned (ref.toList ++ roots)) (T : TypeTag) :
    s.takeValue T ref = ((s.fromValue T ref).1, (s.fromValue T ref).2.releaseRef ref) := by
  cases hx : Memory.shared.take s T ref with
  | none => rw [takeValue_of_none hx, fromValue_of_none hx]
  | some x =>
    rw [fromValue_of_take hx]
    rcases takeValue_cases hx with ⟨rfl, htake⟩ | ⟨a, cell, rfl, hcell, hheld, hcases⟩
    · cases hx
      have hpos : ∀ b ∈ ref.toList, 0 < s.owners b := fun b hb =>
        h.owners_pos (h.live (.inl (List.mem_append_left roots hb)))
      have hback := release_retainAll hpos []
      rw [List.append_nil, Store.release] at hback
      rw [htake]
      exact Prod.ext rfl hback.symm
    · rcases hcases with ⟨hsole, htake⟩ | ⟨-, htake⟩
      · rw [htake, ← h.release_copy_of_sole hcell hsole, hheld]
        rfl
      · rw [htake, hheld]
        rfl

/-- **What was taken leaves, once it is given up, what giving the handle up would have left.** -/
theorem release_takeValue (h : s.Owned (ref.toList ++ roots))
    (hx : Memory.shared.take s T ref = some x) :
    (s.takeValue T ref).2.release (T.held x) = s.releaseRef ref := by
  rcases takeValue_cases hx with ⟨rfl, htake⟩ | ⟨a, cell, rfl, hcell, hheld, hcases⟩
  · cases hx
    rw [htake]
    rfl
  · show _ = s.release [a]
    rw [hheld]
    rcases hcases with ⟨hsole, htake⟩ | ⟨hshared, htake⟩
    · have hnot : ¬ 1 < cell.owners := Nat.not_lt_of_le (Nat.le_of_eq hsole)
      rw [htake, release_cons hcell, if_neg hnot, List.append_nil]
    · have hpos := h.counted.positive hcell
      rw [htake]
      exact h.release_held_of_shared hcell (by omega)

end Owned

/-! ### What is seen -/

theorem plain_boxed_stamped (s : Store) (stamp : Address) (content : Content Ref) :
    (Stamped.boxed stamp (content.map s.stamped)).plain = .boxed (content.map s.view) := by
  rw [Stamped.plain_boxed, Content.map_map]
  exact congrArg (fun f => Value.boxed (content.map f)) (funext fun ref => (s.view_eq ref).symm)

namespace Owned

theorem view_of_grows {s' : Store} {roots' : List Address} (h : s.Owned roots)
    (h' : s'.Owned roots') (hgrows : s.Grows s') (href : ∀ a ∈ ref, s.Live a) :
    s'.view ref = s.view ref := by
  rw [view_eq, view_eq, h.stamped_of_grows h' hgrows href]

theorem view_some (h : s.Owned roots) (hcell : s.cell? a = some cell) :
    s.view (some a) = .boxed (cell.content.map s.view) := by
  rw [view_eq, h.stamped_some hcell, plain_boxed_stamped]

theorem view_alloc {content : Content Ref} (h : s.Owned (content.held ++ roots)) :
    (s.alloc content).2.view (s.alloc content).1 = .boxed (content.map s.view) := by
  rw [view_eq, h.stamped_alloc, plain_boxed_stamped]

theorem content?_view (h : s.Owned roots) (href : ∀ a ∈ ref, s.Live a) :
    (s.view ref).content? = (s.read? ref).map (Content.map s.view) := by
  cases ref with
  | none => rfl
  | some a =>
    obtain ⟨cell, hcell⟩ := href a rfl
    rw [h.view_some hcell, read?, Option.bind_some, hcell]
    rfl

/-- What is behind a handle, seen as a plain value, is what is read from that value. -/
theorem map_take (h : s.Owned roots) (href : ∀ a ∈ ref, s.Live a) (T : TypeTag) :
    (Memory.shared.take s T ref).map (T.mapHolding s.view) = (s.view ref).fromExact? T := by
  by_cases hT : T = .any
  · subst hT
    rfl
  · have hplain : (s.view ref).fromExact? T = (s.view ref).content?.bind (Content.as? T) := by
      rw [← Memory.plain_take T (s.view ref) (), Memory.take_of_ne_any _ hT]
      rfl
    rw [hplain, h.content?_view href, Memory.take_of_ne_any _ hT, Option.map_bind, Option.bind_map]
    exact congrArg (s.read? ref).bind (funext fun c => (c.as?_map s.view T).symm)

theorem mismatch_eq (h : s.Owned roots) (href : ∀ a ∈ ref, s.Live a) (T : TypeTag) :
    s.mismatch T ref = (s.view ref).mismatch T := by
  have htag : (s.view ref).tag? = (s.read? ref).map Content.tag := by
    rw [Value.tag?, h.content?_view href, Option.map_map]
    exact congrArg (Option.map · _) (funext (Content.tag_map s.view))
  rw [mismatch, Value.mismatch, Value.typeName, htag]

/-- **What is copied out is what is read from the value that is seen.** -/
theorem map_fromValue (h : s.Owned roots) (href : ∀ a ∈ ref, s.Live a) (T : TypeTag) :
    (s.fromValue T ref).1.map (T.mapHolding s.view) = (s.view ref).fromValue T := by
  have htake := h.map_take href T
  cases hx : Memory.shared.take s T ref with
  | none =>
    rw [hx] at htake
    rw [fromValue_of_none hx, Value.fromValue_of_fromExact?_none htake.symm, ← h.mismatch_eq href]
    rfl
  | some x =>
    rw [hx] at htake
    rw [fromValue_of_take hx]
    exact (Value.fromValue_eq_ok_iff.mpr htake.symm).symm

end Owned

/-- The readers do the same on a handle, next to which there are the handles `roots`. -/
structure ReadAlike (s : Store) (T : TypeTag) (ref : Ref) (roots : List Address) : Prop where
  /-- What is read is what the value behind the handle is read as, or is the same mismatch. -/
  seen_eq : (s.fromValue T ref).1.map (T.mapHolding s.view) = (s.view ref).fromValue T
  fromExact?_eq : s.fromExact? T ref = ((s.fromValue T ref).1.toOption, (s.fromValue T ref).2)
  /-- To give the handle up for the datum is to copy the datum and then to give the handle up. -/
  takeValue_eq :
    s.takeValue T ref = ((s.fromValue T ref).1, (s.fromValue T ref).2.releaseRef ref)
  /-- All handles are counted afterwards, those in the datum that was read among them. -/
  owned : ∀ x, (s.fromValue T ref).1 = .ok x →
    (s.fromValue T ref).2.Owned (T.held x ++ (ref.toList ++ roots)) ∧
      (s.takeValue T ref).2.Owned (T.held x ++ roots)
  /-- Behind the other handles nothing is noticed. -/
  others_eq : ∀ r : Ref, (∀ a ∈ r, a ∈ roots) →
    (s.fromValue T ref).2.view r = s.view r ∧ (s.takeValue T ref).2.view r = s.view r
  /-- A handle that was read is handed back. -/
  boxed_any : ∀ x, (s.fromValue T ref).1 = .ok x → T = .any →
    Memory.shared.ofHolding (s.fromValue T ref).2 T x = (ref, (s.fromValue T ref).2)
  /-- A datum that was read is boxed anew, and is seen as the value it was read from. -/
  boxed_ne : ∀ x, (s.fromValue T ref).1 = .ok x → T ≠ .any →
    ∃ a, (Memory.shared.ofHolding (s.fromValue T ref).2 T x).1 = some a ∧ ¬ s.Live a ∧
      (Memory.shared.ofHolding (s.fromValue T ref).2 T x).2.view (some a) = s.view ref

namespace Owned

/-- What is copied out is counted, and everything that was there is there. -/
theorem built_fromValue (h : s.Owned (ref.toList ++ roots)) (hx : (s.fromValue T ref).1 = .ok x) :
    s.Built (s.fromValue T ref).2 (ref.toList ++ roots) (T.held x) := by
  have href : ∀ a ∈ ref, s.Live a := fun a ha =>
    h.live (.inl (List.mem_append_left roots (Option.mem_toList.mpr ha)))
  have htake := fromValue_eq_ok_iff.mp hx
  rw [fromValue_of_take htake]
  exact h.built_retainAll (h.live_of_take href htake)

/-- **Reading is not noticed behind any other handle.** -/
theorem view_fromValue (h : s.Owned (ref.toList ++ roots)) (T : TypeTag) {r : Ref}
    (hr : ∀ a ∈ r, a ∈ roots) :
    (s.fromValue T ref).2.view r = s.view r ∧
      ((s.fromValue T ref).2.releaseRef ref).view r = s.view r := by
  have hlive : ∀ a ∈ r, s.Live a := fun a ha =>
    h.live (.inl (List.mem_append_right _ (hr a ha)))
  have hbuilt : ∃ held, s.Built (s.fromValue T ref).2 (ref.toList ++ roots) held := by
    cases hx : Memory.shared.take s T ref with
    | none =>
      rw [fromValue_of_none hx]
      exact ⟨[], h, .refl s⟩
    | some x => exact ⟨_, h.built_fromValue (fromValue_eq_ok_iff.mpr hx)⟩
  obtain ⟨held, hbuilt⟩ := hbuilt
  have hkept := h.view_of_grows hbuilt.owned hbuilt.grows hlive
  have howned : (s.fromValue T ref).2.Owned (ref.toList ++ (held ++ roots)) :=
    hbuilt.owned.perm (List.perm_append_comm_assoc _ _ _)
  refine ⟨hkept, ?_⟩
  rw [← hkept, view_eq, view_eq, releaseRef,
    howned.stamped_release fun a ha => List.mem_append_right held (hr a ha)]

/-- **A datum that was copied out of a cell and is boxed anew** stands in a new cell, and is seen
there as it is in the old one. -/
theorem view_ofHolding (h : s.Owned (ref.toList ++ roots)) (hx : (s.fromValue T ref).1 = .ok x)
    (hT : T ≠ .any) : ∃ a,
      (Memory.shared.ofHolding (s.fromValue T ref).2 T x).1 = some a ∧ ¬ s.Live a ∧
      (Memory.shared.ofHolding (s.fromValue T ref).2 T x).2.view (some a) = s.view ref := by
  have hbuilt := h.built_fromValue hx
  obtain ⟨a, cell, rfl, hcell, hboxed⟩ := exists_cell?_of_take hT (fromValue_eq_ok_iff.mp hx)
  generalize (s.fromValue T (some a)).2 = s' at hbuilt
  obtain ⟨cell', hcell', hcontent⟩ := hbuilt.grows a cell hcell
  have howned := hbuilt.owned
  rw [TypeTag.held_of_boxed? hboxed] at howned
  rw [Memory.ofHolding_of_boxed? Memory.shared s' hboxed]
  refine ⟨s'.cells.length, rfl, ?_, ?_⟩
  · rintro ⟨new, hnew⟩
    obtain ⟨new', hnew', -⟩ := hbuilt.grows _ new hnew
    exact Nat.lt_irrefl _ (lt_of_cell? hnew')
  · calc (s'.alloc cell.content).2.view (some s'.cells.length)
        = .boxed (cell.content.map s'.view) := howned.view_alloc
      _ = s'.view (some a) := by rw [howned.view_some hcell', hcontent]
      _ = s.view (some a) := h.view_of_grows howned hbuilt.grows fun b hb => by
          cases hb
          exact ⟨cell, hcell⟩

/-- **The readers do the same on every handle that is counted.** -/
theorem readAlike (h : s.Owned (ref.toList ++ roots)) (T : TypeTag) : s.ReadAlike T ref roots where
  seen_eq := h.map_fromValue
    (fun a ha => h.live (.inl (List.mem_append_left roots (Option.mem_toList.mpr ha)))) T
  fromExact?_eq := s.fromExact?_eq T ref
  takeValue_eq := h.takeValue_eq T
  owned := by
    intro x hx
    have hbuilt := h.built_fromValue hx
    refine ⟨hbuilt.owned, ?_⟩
    rw [h.takeValue_eq]
    exact (hbuilt.owned.perm (List.perm_append_comm_assoc _ _ _)).release
  others_eq := by
    intro r hr
    rw [h.takeValue_eq]
    exact h.view_fromValue T hr
  boxed_any := by
    rintro x hx rfl
    cases fromValue_eq_ok_iff.mp hx
    rfl
  boxed_ne x hx hT := h.view_ofHolding hx hT

end Owned

end Store

/-! ### All together -/

namespace Pool

/-- The handles of the variables but one. -/
def rootsBut (p : Pool) (name : String) : List Address :=
  rootsOf (Registry.erase p.handles name)

theorem mem_rootsBut {p : Pool} {name other : String} (h : other ≠ name) :
    ∀ a ∈ p.ref other, a ∈ p.rootsBut name := by
  intro a ha
  rw [← ref_unbind_ne h] at ha
  exact mem_rootsOf_of_ref (p := p.unbind name) ha

/-- A variable that is given up for an assigned value is one whose value is taken, reported and
given up. -/
structure Takes (p : Pool) (T : TypeTag) (name : String) : Prop where
  outcome_eq : (p.step (.takeValue T name)).1 = .read (boxed T
    ((p.store.takeValue T (p.ref name)).1.map (T.mapHolding p.store.view)))
  store_eq : (p.step (.takeValue T name)).2.store =
    (p.store.takeValue T (p.ref name)).2.release
      ((p.store.takeValue T (p.ref name)).1.toOption.elim [] T.held)

namespace Owned

variable {p : Pool}

theorem store_rootsBut (h : p.Owned) (name : String) :
    p.store.Owned ((p.ref name).toList ++ p.rootsBut name) :=
  h.store.perm (perm_rootsOf_erase h.nodup name)

/-- **A step takes a value as a reader of shared data does.** -/
theorem takes (h : p.Owned) (T : TypeTag) (name : String) : p.Takes T name where
  outcome_eq := by
    rw [Store.takeValue_fst, h.store.map_fromValue (h.live name), ← Value.takeValue_eq_fromValue]
    rfl
  store_eq := by
    show p.store.releaseRef (p.ref name) = _
    cases hx : Memory.shared.take p.store T (p.ref name) with
    | none =>
      rw [Store.takeValue_of_none hx]
      show _ = (p.store.releaseRef (p.ref name)).release []
      rw [Store.release]
    | some x =>
      rw [Store.takeValue_fst, Store.fromValue_of_take hx]
      exact ((h.store_rootsBut name).release_takeValue hx).symm

end Owned

end Pool

/-- **The readers agree, and undo boxing.**  A value is read at a type by all three or by none: at
the type of all values, and at its own type.  They read the same, and fail with the same mismatch.
What was boxed is read back, and what was read is boxed to the value it was read from.

On shared data the readers reach the datum in different ways, and do the same all the same.  To give
a handle up for the datum, which moves it if nobody else has it and copies it if somebody has, is to
copy it and give the handle up; behind the other handles nothing is noticed, and all handles are
counted.  What is read at the type of all values is the handle itself, and any other datum is boxed
in a new cell and seen there as it was.  The variables of a pool are read like this after any
operations. -/
theorem readers_agree (T : TypeTag) :
    (∀ v : Value, v.ReadAlike T) ∧
    (T ≠ .unit → ∀ x, (Value.ofCarrier T x).fromValue T = .ok x ∧
      (Value.ofCarrier T x).takeValue T = .ok x ∧
      (Value.ofCarrier T x).fromExact? T = some x) ∧
    (∀ (v : Value) x, v.fromValue T = .ok x → Value.ofCarrier T x = v) ∧
    (T ≠ .unit → ∀ (s s' : Store) (ref : Ref) (x : T.Holding Ref),
      Memory.shared.ofHolding s T x = (ref, s') → (s'.fromValue T ref).1 = .ok x ∧
        (s'.takeValue T ref).1 = .ok x ∧ (s'.fromExact? T ref).1 = some x) ∧
    ∀ (ops : List Pool.Op) (name : String),
      (Pool.after ops).store.ReadAlike T ((Pool.after ops).ref name)
        ((Pool.after ops).rootsBut name) ∧
      (∀ other, other ≠ name → ∀ a ∈ (Pool.after ops).ref other,
        a ∈ (Pool.after ops).rootsBut name) ∧
      (Pool.after ops).Takes T name := by
  refine ⟨Value.readAlike T, ?_, ?_, ?_, ?_⟩
  · intro hT x
    have hx := Value.fromExact?_ofCarrier hT x
    have halike := Value.readAlike T (Value.ofCarrier T x)
    exact ⟨(halike.fromValue_iff x).mpr hx, (halike.takeValue_iff x).mpr hx, hx⟩
  · intro v x hx
    exact Value.ofCarrier_of_fromExact? (Value.fromValue_eq_ok_iff.mp hx)
  · intro hT s s' ref x hboxed
    have hread : (s'.fromValue T ref).1 = .ok x := by
      have htake := Memory.take_ofHolding hT s x
      rw [hboxed] at htake
      exact Store.fromValue_eq_ok_iff.mpr htake
    refine ⟨hread, ?_, ?_⟩
    · rw [Store.takeValue_fst, hread]
    · rw [Store.fromExact?_eq, hread]
      rfl
  · intro ops name
    have howned := (Pool.owned_after ops).1
    exact ⟨(howned.store_rootsBut name).readAlike T, fun other hother => Pool.mem_rootsBut hother,
      howned.takes T name⟩

/-- A text that two variables have in common is read through the one by giving it up, and is still
seen through the other; what is read of null is a mismatch; and a handle that is read at the type of
all values is handed back. -/
theorem readers_agree_clone :
    (∃ ops : List Pool.Op,
      ops = [.step (.make "a" (.boxed (.leaf .text "x"))), .step (.share "a" "b")] ∧
      ((Pool.after ops).store.takeValue .text ((Pool.after ops).ref "a")).1 = .ok "x" ∧
      ((Pool.after ops).store.takeValue .text ((Pool.after ops).ref "a")).2.view
        ((Pool.after ops).ref "b") = .text "x" ∧
      ∃ s, (Pool.after ops).store.fromValue .any ((Pool.after ops).ref "a") =
          (.ok ((Pool.after ops).ref "a"), s) ∧
        Memory.shared.ofHolding s .any ((Pool.after ops).ref "a") =
          ((Pool.after ops).ref "a", s)) ∧
    Value.null.takeValue .text = .error (.typeMismatch "String" "null") ∧
    (Value.ofCarrier .text "x").fromExact? .text = some "x" := by
  obtain ⟨hvalues, hback, -, -, hpool⟩ := readers_agree .text
  obtain ⟨-, -, -, -, hany⟩ := readers_agree .any
  refine ⟨?_, ((hvalues .null).error_eq rfl).2, (hback nofun "x").2.2⟩
  obtain ⟨ops, hops⟩ : ∃ ops : List Pool.Op,
    ops = [.step (.make "a" (.boxed (.leaf .text "x"))), .step (.share "a" "b")] := ⟨_, rfl⟩
  obtain ⟨halike, hothers, -⟩ := hpool ops "a"
  have hview : ∀ name, (Pool.after ops).view name = ((Ledger.after ops).value name).plain := by
    intro name
    rw [Pool.view_eq_plain, (Pool.owned_after ops).2]
  refine ⟨ops, hops, ?_, ?_, _, rfl, (hany ops "a").1.boxed_any _ rfl rfl⟩
  · have hplain : (Pool.after ops).view "a" = .text "x" := by
      rw [hview, hops]
      rfl
    have hseen := halike.seen_eq
    rw [← Pool.view, hplain] at hseen
    rw [Store.takeValue_fst]
    cases hread : ((Pool.after ops).store.fromValue .text ((Pool.after ops).ref "a")).1 with
    | ok x =>
      rw [hread] at hseen
      exact hseen
    | error e =>
      rw [hread] at hseen
      cases hseen
  · have hkept := (halike.others_eq _ (hothers "b" (by decide))).2
    rw [hkept, ← Pool.view, hview, hops]
    rfl

end LateBinding
