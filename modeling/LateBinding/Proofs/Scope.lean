import LateBinding.Proofs.Table
import LateBinding.Store.Pool

/-!
# Scope: handles on cells that exist

Addresses are given out in order and are not given out again.  So a handle never points past the end
of its store, and a new cell is one that no handle has pointed to before.

* `Store.ClosedBelow`, `Store.Closed` — cells that hold handles on cells among themselves only;
* `Store.Keeps`, `Store.keeps_retain`, `Store.keeps_release` — handles come and go, the data of
  cells that are not freed stay;
* `Store.cell?_release` — giving handles up does not reach cells beyond those that are closed;
* `Store.Ready`, `Store.Made`, `Store.made_build` — what is made from a draft holds handles on cells
  that exist, and so do the variables it shares;
* `Pool.Scoped`, `Pool.scoped_step`, `Pool.scoped_run` — so does all of a pool, after any steps;
* `Pool.Fresh`, `Pool.fresh_make` — a variable that is given a new datum is the sole owner of a new
  cell.
-/

namespace LateBinding

/-! ### The handles in a datum -/

/-- The handle in a field, if there is one. -/
def Field.handle? : Field Ref → Option Address
  | held ref => ref
  | plain _ _ => none

theorem Content.held_optional (ref? : Option Ref) :
    (Content.optional ref?).held = ref?.join.toList := by
  rcases ref? with _ | _ | a <;> rfl

theorem Content.held_record (path : String) (fields : List (String × Field Ref)) :
    (Content.record path fields).held = fields.filterMap fun field => field.2.handle? := rfl

/-- A widened datum is a leaf, and holds no handle. -/
theorem Content.held_widen? {T : TypeTag} {c c' : Content Ref} (h : c.widen? T = some c') :
    c'.held = [] := by
  cases c with
  | leaf l datum =>
    cases T with
    | leaf l' =>
      obtain ⟨widening, -, rfl⟩ := Option.map_eq_some_iff.mp h
      rfl
    | _ => cases h
  | optional _ => cases h
  | record _ _ => cases h

/-- A new datum is one that was widened. -/
theorem exists_widen?_of_retype {ν : Type} {T : TypeTag} {content? : Option (Content ν)}
    {content : Content ν} (h : retype T content? = some (.fresh content)) :
    ∃ c, content? = some c ∧ c.widen? T = some content := by
  unfold retype at h
  split at h
  · cases h
  split at h
  · cases h
  rename_i c
  split at h
  · cases h
  obtain ⟨c', hc', hfresh⟩ := Option.map_eq_some_iff.mp h
  cases hfresh
  exact ⟨c, rfl, hc'⟩

theorem held_of_retype_fresh {T : TypeTag} {content? : Option (Content Ref)} {c : Content Ref}
    (h : retype T content? = some (.fresh c)) : c.held = [] := by
  obtain ⟨old, -, hwiden⟩ := exists_widen?_of_retype h
  exact Content.held_widen? hwiden

namespace Store

variable {s s' s'' : Store} {n : Nat}

/-! ### Cells -/

theorem length_put (s : Store) (a : Address) (cell? : Option Cell) :
    (s.put a cell?).cells.length = s.cells.length := by
  rw [put, List.length_set]

theorem cell?_put_ne {a b : Address} (h : a ≠ b) (cell? : Option Cell) :
    (s.put a cell?).cell? b = s.cell? b := by
  rw [Store.cell?, put, List.getElem?_set_ne h, ← Store.cell?]

theorem cell?_put_self {a : Address} (h : a < s.cells.length) (cell? : Option Cell) :
    (s.put a cell?).cell? a = cell? := by
  rw [Store.cell?, put, List.getElem?_set_self h, Option.join_some]

theorem lt_of_cell? {a : Address} {cell : Cell} (h : s.cell? a = some cell) :
    a < s.cells.length := by
  obtain ⟨hlt, -⟩ := List.getElem?_eq_some_iff.mp (getElem?_of_cell? h)
  exact hlt

theorem length_alloc (s : Store) (content : Content Ref) :
    (s.alloc content).2.cells.length = s.cells.length + 1 := by
  simp [alloc]

theorem cell?_alloc_self (s : Store) (content : Content Ref) :
    (s.alloc content).2.cell? s.cells.length = some ⟨1, content⟩ := by
  simp [alloc, Store.cell?]

theorem cell?_alloc_ne {b : Address} (h : b ≠ s.cells.length) (content : Content Ref) :
    (s.alloc content).2.cell? b = s.cell? b := by
  have hcell : (s.cells ++ [some ⟨1, content⟩])[b]?.join = s.cells[b]?.join := by
    rcases Nat.lt_or_gt_of_ne h with hlt | hgt
    · rw [List.getElem?_append_left hlt]
    · have hout : s.cells.length ≤ b := Nat.le_of_lt hgt
      have hlen : (s.cells ++ [some (⟨1, content⟩ : Cell)]).length ≤ b := by
        rw [List.length_append, List.length_singleton]
        exact hgt
      rw [List.getElem?_eq_none hlen, List.getElem?_eq_none hout]
  exact hcell

/-! ### Closed stores -/

/-- The cells below `n` hold handles on cells below `n` only. -/
def ClosedBelow (n : Nat) (s : Store) : Prop :=
  ∀ b cell, b < n → s.cell? b = some cell → ∀ a ∈ cell.content.held, a < n

/-- No handle in a cell points past the end. -/
def Closed (s : Store) : Prop := s.ClosedBelow s.cells.length

theorem closed_iff : s.Closed ↔
    ∀ b cell, s.cell? b = some cell → ∀ a ∈ cell.content.held, a < s.cells.length := by
  constructor
  · intro h b cell hcell
    exact h b cell (lt_of_cell? hcell) hcell
  · intro h b cell _ hcell
    exact h b cell hcell

/-! ### Handles that come and go -/

/-- The cells that are not freed keep their data. -/
structure Keeps (s s' : Store) : Prop where
  length_eq : s'.cells.length = s.cells.length
  content_eq : ∀ {b cell'}, s'.cell? b = some cell' →
    ∃ cell, s.cell? b = some cell ∧ cell.content = cell'.content

theorem Keeps.refl (s : Store) : s.Keeps s := ⟨rfl, fun hcell => ⟨_, hcell, rfl⟩⟩

theorem Keeps.trans (h : s.Keeps s') (h' : s'.Keeps s'') : s.Keeps s'' where
  length_eq := h'.length_eq.trans h.length_eq
  content_eq := by
    intro b cell'' hcell''
    obtain ⟨cell', hcell', heq'⟩ := h'.content_eq hcell''
    obtain ⟨cell, hcell, heq⟩ := h.content_eq hcell'
    exact ⟨cell, hcell, heq.trans heq'⟩

theorem Keeps.closedBelow (h : s.Keeps s') (hs : s.ClosedBelow n) : s'.ClosedBelow n := by
  intro b cell' hb hcell' a ha
  obtain ⟨cell, hcell, heq⟩ := h.content_eq hcell'
  rw [← heq] at ha
  exact hs b cell hb hcell a ha

theorem Keeps.closed (h : s.Keeps s') (hs : s.Closed) : s'.Closed := by
  rw [Closed, h.length_eq]
  exact h.closedBelow hs

/-- Replacing a cell by one with the same datum, or freeing it, keeps the others. -/
theorem keeps_put {a : Address} {cell : Cell} {new? : Option Cell} (ha : s.cell? a = some cell)
    (hnew : ∀ new, new? = some new → new.content = cell.content) : s.Keeps (s.put a new?) where
  length_eq := s.length_put a new?
  content_eq := by
    intro b cell' hcell'
    by_cases hb : a = b
    · subst hb
      rw [cell?_put_self (lt_of_cell? ha)] at hcell'
      exact ⟨cell, ha, (hnew cell' hcell').symm⟩
    · rw [cell?_put_ne hb] at hcell'
      exact ⟨cell', hcell', rfl⟩

theorem keeps_retain (s : Store) (ref : Ref) : s.Keeps (s.retain ref) := by
  cases ref with
  | none => exact .refl s
  | some a =>
    rw [retain]
    split
    · rename_i cell hcell
      exact keeps_put hcell fun new hnew => by cases hnew; rfl
    · exact .refl s

theorem keeps_release (s : Store) (work : List Address) : s.Keeps (s.release work) := by
  fun_induction release s work with
  | case1 s => exact .refl s
  | case2 s a work hcell ih => exact ih
  | case3 s a work cell hcell howners ih =>
    exact (keeps_put hcell fun new hnew => by cases hnew; rfl).trans ih
  | case4 s a work cell hcell howners ih =>
    exact (keeps_put hcell fun new hnew => by cases hnew).trans ih

/-- **Giving handles up stays among closed cells.**  Beyond them no cell is touched. -/
theorem cell?_release {work : List Address} (hs : s.ClosedBelow n) (hwork : ∀ a ∈ work, a < n)
    {b : Address} (hb : n ≤ b) : (s.release work).cell? b = s.cell? b := by
  fun_induction release s work with
  | case1 s => rfl
  | case2 s a work hcell ih => exact ih hs fun x hx => hwork x (List.mem_cons_of_mem a hx)
  | case3 s a work cell hcell howners ih =>
    have ha : a < n := hwork a List.mem_cons_self
    have hkeeps : s.Keeps (s.put a (some { cell with owners := cell.owners - 1 })) :=
      keeps_put hcell fun new hnew => by cases hnew; rfl
    rw [ih (hkeeps.closedBelow hs) fun x hx => hwork x (List.mem_cons_of_mem a hx)]
    exact cell?_put_ne (Nat.ne_of_lt (Nat.lt_of_lt_of_le ha hb)) _
  | case4 s a work cell hcell howners ih =>
    have ha : a < n := hwork a List.mem_cons_self
    have hkeeps : s.Keeps (s.put a none) := keeps_put hcell fun new hnew => by cases hnew
    have hwork' : ∀ x ∈ cell.content.held ++ work, x < n := by
      intro x hx
      rcases List.mem_append.mp hx with hheld | hx
      · exact hs a cell ha hcell x hheld
      · exact hwork x (List.mem_cons_of_mem a hx)
    rw [ih (hkeeps.closedBelow hs) hwork']
    exact cell?_put_ne (Nat.ne_of_lt (Nat.lt_of_lt_of_le ha hb)) _

/-! ### Making data -/

/-- A closed store in which the handles of all variables are on cells that exist. -/
structure Ready (handles : String → Ref) (s : Store) : Prop where
  closed : s.Closed
  lt_of_handle : ∀ x, ∀ a ∈ handles x, a < s.cells.length

/-- Something was made that holds the given handles. -/
structure Made (s s' : Store) (held : List Address) : Prop where
  length_le : s.cells.length ≤ s'.cells.length
  closed : s'.Closed
  lt_of_held : ∀ a ∈ held, a < s'.cells.length

variable {handles : String → Ref}

theorem Ready.made (h : s.Ready handles) : s.Made s [] :=
  ⟨Nat.le_refl _, h.closed, fun a ha => by cases ha⟩

theorem Made.ready {held : List Address} (h : s.Ready handles) (h' : s.Made s' held) :
    s'.Ready handles where
  closed := h'.closed
  lt_of_handle x a ha := Nat.lt_of_lt_of_le (h.lt_of_handle x a ha) h'.length_le

/-- What was made first is there after the rest was made. -/
theorem Made.append {held held' : List Address} (h : s.Made s' held) (h' : s'.Made s'' held') :
    s.Made s'' (held ++ held') where
  length_le := Nat.le_trans h.length_le h'.length_le
  closed := h'.closed
  lt_of_held := by
    intro a ha
    rcases List.mem_append.mp ha with hfirst | hrest
    · exact Nat.lt_of_lt_of_le (h.lt_of_held a hfirst) h'.length_le
    · exact h'.lt_of_held a hrest

theorem made_retain (h : s.Ready handles) (x : String) :
    s.Made (s.retain (handles x)) (handles x).toList where
  length_le := Nat.le_of_eq (s.keeps_retain (handles x)).length_eq.symm
  closed := (s.keeps_retain (handles x)).closed h.closed
  lt_of_held := by
    intro a ha
    rw [(s.keeps_retain (handles x)).length_eq]
    exact h.lt_of_handle x a (Option.mem_toList.mp ha)

/-- No cell holds the handle on a cell that is new, the new cell included. -/
theorem Made.lt_of_cell?_alloc {content : Content Ref} (h : s.Made s' content.held) {b : Address}
    {cell : Cell} (hcell : (s'.alloc content).2.cell? b = some cell) :
    ∀ a ∈ cell.content.held, a < s'.cells.length := by
  by_cases hb : b = s'.cells.length
  · rw [hb, cell?_alloc_self] at hcell
    cases hcell
    exact h.lt_of_held
  · rw [cell?_alloc_ne hb] at hcell
    exact closed_iff.mp h.closed b cell hcell

/-- The handle on a new cell for a datum that was made is made in turn. -/
theorem Made.alloc {content : Content Ref} (h : s.Made s' content.held) :
    s.Made (s'.alloc content).2 (s'.alloc content).1.toList where
  length_le := by
    have hle := h.length_le
    rw [length_alloc]
    omega
  closed := by
    rw [closed_iff, length_alloc]
    intro b cell hcell a ha
    exact Nat.lt_succ_of_lt (h.lt_of_cell?_alloc hcell a ha)
  lt_of_held := by
    intro a ha
    have hnew : a = s'.cells.length := by simpa [Store.alloc] using ha
    rw [length_alloc, hnew]
    exact Nat.lt_succ_self _

theorem tag_buildContent (handles : String → Ref) (content : Content Draft) (s : Store) :
    (buildContent handles content s).1.tag = content.tag := by
  cases content <;> rfl

mutual

/-- **What is made from a draft holds handles on cells that exist.** -/
theorem made_build : ∀ (draft : Draft) {s : Store}, s.Ready handles →
    s.Made (build handles draft s).2 (build handles draft s).1.toList
  | .null, _, h => h.made
  | .sharing x, _, h => made_retain h x
  | .boxed content, _, h => (made_buildContent content h).alloc

theorem made_buildContent : ∀ (content : Content Draft) {s : Store}, s.Ready handles →
    s.Made (buildContent handles content s).2 (buildContent handles content s).1.held
  | .leaf _ _, _, h => h.made
  | .optional draft?, s, h => by
    have hmade := made_buildOption draft? h
    rw [buildContent, Content.held_optional]
    exact hmade
  | .record _ fields, s, h => by
    have hmade := made_buildFields fields h
    rw [buildContent, Content.held_record]
    exact hmade

theorem made_buildOption : ∀ (draft? : Option Draft) {s : Store}, s.Ready handles →
    s.Made (buildOption handles draft? s).2 (buildOption handles draft? s).1.join.toList
  | none, _, h => h.made
  | some draft, _, h => made_build draft h

theorem made_buildFields : ∀ (fields : List (String × Field Draft)) {s : Store},
    s.Ready handles →
    s.Made (buildFields handles fields s).2
      ((buildFields handles fields s).1.filterMap fun field => field.2.handle?)
  | [], _, h => h.made
  | field :: fields, s, h => by
    have hfirst := made_buildNamed field h
    have hrest := made_buildFields fields (hfirst.ready h)
    have hall := hfirst.append hrest
    rw [buildFields]
    simp only [List.filterMap_cons]
    cases hfield : (buildNamed handles field s).1.2.handle? with
    | none => simpa [hfield] using hall
    | some a => simpa [hfield] using hall

theorem made_buildNamed : ∀ (field : String × Field Draft) {s : Store}, s.Ready handles →
    s.Made (buildNamed handles field s).2 (buildNamed handles field s).1.2.handle?.toList
  | (_, field), _, h => made_buildField field h

theorem made_buildField : ∀ (field : Field Draft) {s : Store}, s.Ready handles →
    s.Made (buildField handles field s).2 (buildField handles field s).1.handle?.toList
  | .plain _ _, _, h => h.made
  | .held draft, _, h => made_build draft h

end

/-- A datum that was made may take the place of another. -/
theorem Made.put {content : Content Ref} (h : s.Made s' content.held) (a : Address) :
    (s'.put a (some ⟨1, content⟩)).Closed := by
  rw [closed_iff, length_put]
  intro b cell hcell
  by_cases hb : a = b
  · subst hb
    have ha : a < s'.cells.length := by
      rw [← s'.length_put a (some ⟨1, content⟩)]
      exact lt_of_cell? hcell
    rw [cell?_put_self ha] at hcell
    cases hcell
    exact h.lt_of_held
  · rw [cell?_put_ne hb] at hcell
    exact closed_iff.mp h.closed b cell hcell

end Store

/-! ### Variables -/

namespace Pool

variable {p : Pool} {name other : String} {ref : Ref}

theorem setHandle_eq_update (name : String) (ref : Ref) (handles : List (String × Ref)) :
    setHandle name ref handles = Registry.update name ref handles := by
  induction handles with
  | nil => rfl
  | cons head rest ih =>
    obtain ⟨x, old⟩ := head
    rw [setHandle, Registry.update, ih]

theorem ref_bind_self (p : Pool) (name : String) (ref : Ref) :
    (p.bind name ref).ref name = ref := by
  have hlookup := Registry.lookup?_update_self name ref p.handles
  rw [← setHandle_eq_update] at hlookup
  exact congrArg Option.join hlookup

theorem ref_bind_ne (h : other ≠ name) (ref : Ref) : (p.bind name ref).ref other = p.ref other := by
  have hlookup := Registry.lookup?_update_ne h ref p.handles
  rw [← setHandle_eq_update] at hlookup
  exact congrArg Option.join hlookup

theorem ref_unbind_self (p : Pool) (name : String) : (p.unbind name).ref name = none :=
  congrArg Option.join (Registry.lookup?_erase_self p.handles name)

theorem ref_unbind_ne (h : other ≠ name) : (p.unbind name).ref other = p.ref other :=
  congrArg Option.join (Registry.lookup?_erase_ne h p.handles)

/-! ### Pools in which handles are on cells that exist -/

/-- All handles of a pool, of variables and in cells, are on cells that exist. -/
def Scoped (p : Pool) : Prop := p.store.Ready p.ref

theorem scoped_empty : Scoped {} where
  closed := by
    rw [Store.closed_iff]
    intro b cell hcell
    exact absurd (Store.lt_of_cell? hcell) (Nat.not_lt_zero b)
  lt_of_handle x a ha := by cases ha

/-- The store may change as long as cells that exist go on existing. -/
theorem Scoped.with_store {held : List Address} {s : Store} (h : p.Scoped)
    (hmade : p.store.Made s held) : Scoped ⟨p.handles, s⟩ := hmade.ready h

theorem Scoped.released (h : p.Scoped) (work : List Address) :
    Scoped ⟨p.handles, p.store.release work⟩ where
  closed := (p.store.keeps_release work).closed h.closed
  lt_of_handle x a ha := by
    rw [(p.store.keeps_release work).length_eq]
    exact h.lt_of_handle x a ha

theorem Scoped.bind (h : p.Scoped) (href : ∀ a ∈ ref, a < p.store.cells.length)
    (name : String) : (p.bind name ref).Scoped where
  closed := (p.store.keeps_release _).closed h.closed
  lt_of_handle := by
    intro x a ha
    have hlength : (p.bind name ref).store.cells.length = p.store.cells.length :=
      (p.store.keeps_release _).length_eq
    rw [hlength]
    by_cases hx : x = name
    · rw [hx, ref_bind_self] at ha
      exact href a ha
    · rw [ref_bind_ne hx] at ha
      exact h.lt_of_handle x a ha

theorem Scoped.unbind (h : p.Scoped) (name : String) : (p.unbind name).Scoped where
  closed := (p.store.keeps_release _).closed h.closed
  lt_of_handle := by
    intro x a ha
    have hlength : (p.unbind name).store.cells.length = p.store.cells.length :=
      (p.store.keeps_release _).length_eq
    rw [hlength]
    by_cases hx : x = name
    · rw [hx, ref_unbind_self] at ha
      cases ha
    · rw [ref_unbind_ne hx] at ha
      exact h.lt_of_handle x a ha

/-- A variable takes over a handle that was made for it. -/
theorem Scoped.bind_made (h : p.Scoped) {s : Store} (hmade : p.store.Made s ref.toList)
    (name : String) : (Pool.bind ⟨p.handles, s⟩ name ref).Scoped :=
  (h.with_store hmade).bind (fun a ha => hmade.lt_of_held a (Option.mem_toList.mpr ha)) name

theorem Scoped.write (h : p.Scoped) (target : String) (draft : Content Draft) :
    (p.write target draft).2.Scoped := by
  have hmade := Store.made_buildContent draft h
  generalize hbuilt : Store.buildContent p.ref draft p.store = built at hmade
  obtain ⟨content, s⟩ := built
  have hrefused : Scoped ⟨p.handles, s.release content.held⟩ := (h.with_store hmade).released _
  simp only [Pool.write, hbuilt]
  split
  · rename_i a old _ _ _
    have hwritten : Scoped ⟨p.handles, s.put a (some ⟨1, content⟩)⟩ := by
      refine ⟨hmade.put a, ?_⟩
      intro x b hb
      rw [Store.length_put]
      exact (hmade.ready h).lt_of_handle x b hb
    split
    · exact hwritten.released old.held
    · exact hrefused
  · exact hrefused

/-- **No step leaves a handle on a cell that does not exist.** -/
theorem scoped_step (h : p.Scoped) (step : Step) : (p.step step).2.Scoped := by
  cases step with
  | make target draft => exact h.bind_made (Store.made_build draft h) target
  | share source target => exact h.bind_made (Store.made_retain h source) target
  | drop source => exact h.unbind source
  | write target content => exact h.write target content
  | intoInner T source => exact h.unbind source
  | takeValue T source => exact h.unbind source
  | coerce T source target =>
    rw [Pool.step]
    split
    · exact h
    · exact h.bind_made (Store.made_retain h source) target
    · rename_i content hfresh
      have hheld : p.store.Made p.store content.held := by
        rw [held_of_retype_fresh hfresh]
        exact h.made
      exact h.bind_made hheld.alloc target

theorem scoped_run (h : p.Scoped) (steps : List Step) : (p.run steps).Scoped := by
  induction steps generalizing p with
  | nil => exact h
  | cons step steps ih => exact ih (scoped_step h step)

/-! ### New cells -/

/-- A variable of `p'` is the sole owner of a datum in the cell `a`, which `p` did not have. -/
structure Fresh (p p' : Pool) (name : String) (a : Address) (content : Content Ref) : Prop where
  ref_eq : p'.ref name = some a
  isNew : p.store.cells.length ≤ a
  cell_eq : p'.store.cell? a = some ⟨1, content⟩
  apart : ∀ other, other ≠ name → p'.ref other ≠ some a
  not_held : ∀ b cell, p'.store.cell? b = some cell → a ∉ cell.content.held

variable {p' : Pool} {a : Address} {content : Content Ref}

theorem Fresh.isUnique (h : Fresh p p' name a content) : p'.isUnique name := by
  rw [Pool.isUnique, Store.isUnique, h.ref_eq]
  simp only [Option.bind_some, h.cell_eq, decide_true]

/-- Two variables share nothing if one of them has a new cell. -/
theorem Fresh.not_same (h : Fresh p p' name a content) (hne : other ≠ name) :
    p'.same other name = false := by
  rw [same, h.ref_eq]
  exact decide_eq_false (h.apart other hne)

/-- **A new datum has a new cell, and the variable it is made for is its sole owner**, whatever
other variables the draft shares. -/
theorem fresh_make (h : p.Scoped) (name : String) (draft : Content Draft) :
    ∃ a, Fresh p (p.step (.make name (.boxed draft))).2 name a
      (Store.buildContent p.ref draft p.store).1 := by
  have hmade := Store.made_buildContent draft h
  generalize hbuilt : Store.buildContent p.ref draft p.store = built at hmade
  obtain ⟨content, s⟩ := built
  have hstep : (p.step (.make name (.boxed draft))).2 =
      Pool.bind ⟨p.handles, (s.alloc content).2⟩ name (some s.cells.length) := by
    simp only [Pool.step, Store.build, hbuilt]
    rfl
  have hold : ∀ x, ∀ b ∈ p.ref x, b < s.cells.length := by
    intro x b hb
    exact Nat.lt_of_lt_of_le (h.lt_of_handle x b hb) hmade.length_le
  rw [hstep]
  refine ⟨s.cells.length, ref_bind_self _ name _, hmade.length_le, ?_, ?_, ?_⟩
  · -- the old handle of the variable is given up, and that does not reach the new cell
    have hclosed : (s.alloc content).2.ClosedBelow s.cells.length := fun b cell _ hcell =>
      hmade.lt_of_cell?_alloc hcell
    rw [← s.cell?_alloc_self content]
    exact Store.cell?_release hclosed (fun b hb => hold name b (Option.mem_toList.mp hb))
      (Nat.le_refl _)
  · intro other hother hsame
    rw [ref_bind_ne hother] at hsame
    exact Nat.lt_irrefl _ (hold other _ hsame)
  · intro b cell' hcell' hheld
    obtain ⟨cell, hcell, heq⟩ := (Store.keeps_release _ _).content_eq hcell'
    rw [← heq] at hheld
    exact Nat.lt_irrefl _ (hmade.lt_of_cell?_alloc hcell _ hheld)

end Pool

end LateBinding
