import LateBinding.Proofs.Conversion
import LateBinding.Proofs.Ledger

/-!
# Sharing: variables on shared data are like variables on copies

A pool shares data between variables and counts the handles on them; a ledger copies values.  One
cannot be told from the other.

* `Pool.Owned`, `Pool.ledger` — pools in which every handle is counted, and the values of their
  variables;
* `Pool.Owned.bind`, `Pool.Owned.unbind`, `Pool.Owned.write` — a variable takes over a handle, gives
  its handle up, or is written to: the ledger is changed at that variable only;
* `Pool.Owned.perform`, `Pool.owned_after` — an operation on a pool is that operation on its ledger,
  and so is a sequence of operations;
* `Pool.LooksLike`, `Pool.Tallied` — what is seen of a pool is what a ledger says, and what the
  handles on a cell come to;
* `Pool.Confined`, `Pool.Op.relates` — an operation is about one variable, and which other variables
  it leaves with the same datum;
* `Pool.WritesAlone`, `Pool.GivesUp` — writing to a datum, and giving a variable up for one;
* `shared_as_copied` — all of it, after any operations.
-/

namespace LateBinding

/-! ### Variables -/

namespace Pool

open Registry (lookup? update mapEntries keys)

/-- The handles of variables. -/
def rootsOf (handles : List (String × Ref)) : List Address :=
  handles.flatMap fun entry => entry.2.toList

theorem mem_rootsOf {handles : List (String × Ref)} {name : String} {ref : Ref} {a : Address}
    (h : (name, ref) ∈ handles) (ha : a ∈ ref) : a ∈ rootsOf handles :=
  List.mem_flatMap.mpr ⟨_, h, Option.mem_toList.mpr ha⟩

/-- A variable takes over a handle, and its old one is given up. -/
theorem perm_rootsOf_update (name : String) (ref : Ref) (handles : List (String × Ref)) :
    (ref.toList ++ rootsOf handles).Perm
      ((lookup? handles name).join.toList ++ rootsOf (update name ref handles)) := by
  induction handles with
  | nil => exact .refl _
  | cons head handles ih =>
    obtain ⟨x, old⟩ := head
    rw [Registry.lookup?_cons, update]
    by_cases hx : x = name
    · rw [if_pos hx, if_pos hx]
      exact List.perm_append_comm_assoc ref.toList old.toList (rootsOf handles)
    · rw [if_neg hx, if_neg hx]
      show (ref.toList ++ (old.toList ++ rootsOf handles)).Perm
        ((lookup? handles name).join.toList ++
          (old.toList ++ rootsOf (update name ref handles)))
      refine (List.perm_append_comm_assoc _ _ _).trans ?_
      exact (ih.append_left old.toList).trans (List.perm_append_comm_assoc _ _ _)

/-- A variable is given up with its handle. -/
theorem perm_rootsOf_erase {handles : List (String × Ref)} (hkeys : (keys handles).Nodup)
    (name : String) : (rootsOf handles).Perm
      ((lookup? handles name).join.toList ++ rootsOf (Registry.erase handles name)) := by
  induction handles with
  | nil => exact .refl _
  | cons head handles ih =>
    obtain ⟨x, old⟩ := head
    obtain ⟨hfresh, hrest⟩ := List.nodup_cons.mp hkeys
    rw [Registry.lookup?_cons]
    by_cases hx : x = name
    · -- no other entry goes
      have herase : Registry.erase ((x, old) :: handles) name = handles := by
        rw [Registry.erase, List.filter_cons_of_neg (by simpa using hx)]
        refine List.filter_eq_self.mpr fun entry hentry => ?_
        refine decide_eq_true fun heq => hfresh ?_
        rw [hx, ← heq]
        exact Registry.mem_keys_of_mem hentry
      rw [if_pos hx, herase]
      exact .refl _
    · have herase : Registry.erase ((x, old) :: handles) name =
          (x, old) :: Registry.erase handles name := by
        rw [Registry.erase, List.filter_cons_of_pos (by simpa using hx), ← Registry.erase]
      rw [if_neg hx, herase]
      exact ((ih hrest).append_left old.toList).trans (List.perm_append_comm_assoc _ _ _)

/-- The handles of the variables of a pool are all there are outside of data, and every variable
stands once. -/
structure Owned (p : Pool) : Prop where
  nodup : (keys p.handles).Nodup
  store : p.store.Owned (rootsOf p.handles)

/-- The values of the variables, with the addresses of their data. -/
def ledger (p : Pool) : Ledger := ⟨mapEntries p.store.stamped p.handles, p.store.cells.length⟩

variable {p : Pool} {name : String} {ref : Ref} {s : Store} {held : List Address}

/-- The value of a variable, every datum in it with its address. -/
def value (p : Pool) (name : String) : Stamped := p.store.stamped (p.ref name)

theorem value_ledger (p : Pool) (name : String) : p.ledger.value name = p.value name := by
  have href : p.ref name = (lookup? p.handles name).join := rfl
  rw [Ledger.value, Ledger.value?, ledger, Registry.lookup?_mapEntries, value, href]
  cases lookup? p.handles name <;> rfl

/-- What is seen through a variable is its value without the stamps. -/
theorem view_eq_plain (p : Pool) (name : String) : p.view name = (p.ledger.value name).plain := by
  rw [value_ledger]
  exact p.store.view_eq (p.ref name)

/-- How a variable is coerced is read off its value. -/
theorem retyped?_view (p : Pool) (T : TypeTag) (name : String) :
    (p.view name).retyped? T =
      (retype T (p.ledger.value name).content?).map (Retyped.map Stamped.plain) := by
  rw [Value.retyped?, view_eq_plain, Stamped.content?_plain, retype_map]

theorem mem_rootsOf_of_ref {a : Address} (h : a ∈ p.ref name) : a ∈ rootsOf p.handles :=
  mem_rootsOf (Registry.mem_of_lookup? (Option.join_eq_some_iff.mp h)) rfl

/-- The variables that are left are seen as before after handles were given up. -/
theorem mapEntries_release {handles : List (String × Ref)} {work : List Address}
    (h : s.Owned (work ++ rootsOf handles)) :
    mapEntries (s.release work).stamped handles = mapEntries s.stamped handles :=
  Registry.mapEntries_congr fun _ _ hmem => h.stamped_release fun _ ha => mem_rootsOf hmem ha

/-- What a step on a pool leaves and reports, next to what it should. -/
structure Follows (result : Outcome × Pool) (expected : Outcome × Ledger) : Prop where
  owned : result.2.Owned
  outcome_eq : result.1 = expected.1
  ledger_eq : result.2.ledger = expected.2

namespace Owned

theorem shows (h : p.Owned) : p.store.Shows (rootsOf p.handles) p.ref p.ledger.value where
  owned := h.store
  mem_roots _ _ ha := mem_rootsOf_of_ref ha
  value_eq := p.value_ledger

/-- Variables are seen as before after something was made. -/
theorem mapEntries_built (h : p.Owned) (hbuilt : p.store.Built s (rootsOf p.handles) held) :
    mapEntries s.stamped p.handles = p.ledger.values := by
  refine Registry.mapEntries_congr fun x ref hmem => ?_
  exact h.store.stamped_of_grows hbuilt.owned hbuilt.grows
    (h.store.live_of_mem fun _ ha => mem_rootsOf hmem ha)

/-- **A variable takes over a handle that was made for it.** -/
theorem bind (h : p.Owned) (hbuilt : p.store.Built s (rootsOf p.handles) ref.toList)
    (name : String) : (Pool.bind ⟨p.handles, s⟩ name ref).Owned ∧
      (Pool.bind ⟨p.handles, s⟩ name ref).ledger =
        p.ledger.assign name (s.stamped ref) s.cells.length := by
  have hpool : Pool.bind ⟨p.handles, s⟩ name ref =
      ⟨update name ref p.handles, s.release (p.ref name).toList⟩ := by
    rw [Pool.bind, setHandle_eq_update]
    rfl
  have howned : s.Owned ((p.ref name).toList ++ rootsOf (update name ref p.handles)) :=
    hbuilt.owned.perm (perm_rootsOf_update name ref p.handles)
  rw [hpool]
  refine ⟨⟨Registry.nodup_keys_update h.nodup, howned.release⟩, ?_⟩
  rw [ledger, Ledger.assign, mapEntries_release howned, Registry.mapEntries_update,
    h.mapEntries_built hbuilt, (s.keeps_release _).length_eq]

/-- **A variable is given up.** -/
theorem unbind (h : p.Owned) (name : String) :
    (p.unbind name).Owned ∧ (p.unbind name).ledger = p.ledger.erase name := by
  have howned : p.store.Owned
      ((p.ref name).toList ++ rootsOf (Registry.erase p.handles name)) :=
    h.store.perm (perm_rootsOf_erase h.nodup name)
  refine ⟨⟨Registry.nodup_keys_erase h.nodup, howned.release⟩, ?_⟩
  show (⟨mapEntries (p.store.release (p.ref name).toList).stamped (Registry.erase p.handles name),
    (p.store.release (p.ref name).toList).cells.length⟩ : Ledger) = _
  rw [mapEntries_release howned, Registry.mapEntries_erase, (p.store.keeps_release _).length_eq]
  rfl

/-- What was made is given up again. -/
theorem refuse (h : p.Owned) (hbuilt : p.store.Built s (rootsOf p.handles) held) :
    Pool.Owned ⟨p.handles, s.release held⟩ ∧
      Pool.ledger ⟨p.handles, s.release held⟩ = ⟨p.ledger.values, s.cells.length⟩ := by
  refine ⟨⟨h.nodup, hbuilt.owned.release⟩, ?_⟩
  rw [ledger, mapEntries_release hbuilt.owned, h.mapEntries_built hbuilt,
    (s.keeps_release held).length_eq]

variable {a : Address} {cell : Cell} {content : Content Ref}

/-- The handle of a variable, and all others. -/
theorem perm_others (h : p.Owned) (ha : p.ref name = some a) (held : List Address) :
    (held ++ rootsOf p.handles).Perm
      (a :: (held ++ rootsOf (Registry.erase p.handles name))) := by
  have herase := perm_rootsOf_erase h.nodup name
  have href : (lookup? p.handles name).join = some a := ha
  rw [href] at herase
  exact (herase.append_left held).trans List.perm_middle

/-- The cell of a variable has a single owner if no other variable bears its stamp, and none of the
values that were made besides. -/
theorem owners_eq_one_iff (h : p.Owned) (hbuilt : p.store.Built s (rootsOf p.handles) content.held)
    (ha : p.ref name = some a) : s.owners a = 1 ↔
      ∀ v ∈ (content.map s.stamped).inner ++ p.ledger.others name, a ∉ v.stamps := by
  have hothers : p.ledger.others name =
      (Registry.erase p.handles name).map fun entry => s.stamped entry.2 := by
    rw [Ledger.others, ← h.mapEntries_built hbuilt, ← Registry.mapEntries_erase, mapEntries,
      List.map_map]
    rfl
  rw [(hbuilt.owned.perm (h.perm_others ha _)).owners_eq_one_iff, hothers, Content.inner_map]
  constructor
  · intro hnone v hv
    have hv' : ∃ ref, v = s.stamped ref ∧
        ∀ b ∈ ref, b ∈ content.held ++ rootsOf (Registry.erase p.handles name) := by
      rcases List.mem_append.mp hv with hv | hv
      · obtain ⟨ref, href, rfl⟩ := List.mem_map.mp hv
        refine ⟨ref, rfl, fun b hb => List.mem_append_left _ ?_⟩
        rw [Option.mem_def] at hb
        exact Content.mem_held_iff.mpr (hb ▸ href)
      · obtain ⟨entry, hentry, rfl⟩ := List.mem_map.mp hv
        exact ⟨entry.2, rfl, fun b hb => List.mem_append_right _ (mem_rootsOf hentry hb)⟩
    obtain ⟨ref, rfl, href⟩ := hv'
    cases ref with
    | none => exact Stamped.not_mem_stamps_null a
    | some b => exact hnone b (href b rfl)
  · intro hnone b hb
    refine hnone _ (List.mem_append.mpr ?_)
    rcases List.mem_append.mp hb with hb | hb
    · exact .inl (List.mem_map_of_mem (Content.mem_held_iff.mp hb))
    · obtain ⟨entry, hentry, hb⟩ := List.mem_flatMap.mp hb
      refine .inr (List.mem_map.mpr ⟨entry, hentry, ?_⟩)
      rw [Option.mem_toList.mp hb]

/-- The datum of a single owner is replaced in the values of that variable only. -/
theorem ledger_overwrite (h : p.Owned)
    (hbuilt : p.store.Built s (rootsOf p.handles) content.held) (ha : p.ref name = some a)
    (hcell : s.cell? a = some cell) (hsole : cell.owners = 1) :
    Pool.ledger ⟨p.handles, s.overwrite a cell.content content⟩ =
      p.ledger.assign name (.boxed a (content.map s.stamped)) s.cells.length := by
  have hroot : a ∈ rootsOf p.handles := mem_rootsOf_of_ref ha
  have howned := hbuilt.owned.overwrite_owned hcell hsole hroot
  have hapart : a ∉ rootsOf (Registry.erase p.handles name) := by
    intro hmem
    have howners := (hbuilt.owned.perm (h.perm_others ha _)).counted.owners_eq a
    have hcount := List.count_pos_iff.mpr hmem
    rw [Store.owners_of_cell? hcell, hsole, List.count_cons_self, List.count_append] at howners
    omega
  have hothers : ∀ x ref, (x, ref) ∈ p.handles → x ≠ name →
      (s.overwrite a cell.content content).stamped ref = p.store.stamped ref := by
    intro x ref hmem hx
    have hlive := h.store.live_of_mem fun b hb => mem_rootsOf hmem hb
    rw [← h.store.stamped_of_grows hbuilt.owned hbuilt.grows hlive]
    refine hbuilt.owned.stamped_overwrite_ne hcell hsole hroot fun b hb => ⟨?_, ?_⟩
    · rintro rfl
      exact hapart (mem_rootsOf (List.mem_filter.mpr ⟨hmem, decide_eq_true hx⟩) hb)
    · exact howned.live (.inl (mem_rootsOf hmem hb))
  have hself : lookup? p.handles name = some (some a) := Option.join_eq_some_iff.mp ha
  have hlength : (s.overwrite a cell.content content).cells.length = s.cells.length :=
    (Store.keeps_release _ _).length_eq.trans (s.length_put a _)
  rw [ledger, Ledger.assign, Registry.mapEntries_eq_update h.nodup hself hothers, hlength,
    hbuilt.owned.stamped_overwrite_self hcell hsole hroot]
  rfl

/-- **A write goes to the one variable.** -/
theorem write (h : p.Owned) (target : String) (draft : Content Draft) :
    (p.write target draft).2.Owned ∧ (p.write target draft).1 = (p.ledger.write target draft).1 ∧
      (p.write target draft).2.ledger = (p.ledger.write target draft).2 := by
  obtain ⟨hbuilt, heq⟩ := Store.buildContent_spec draft h.shows
  generalize hresult : Store.buildContent p.ref draft p.store = result at hbuilt heq
  obtain ⟨content, s⟩ := result
  obtain ⟨hrefused, hledger⟩ := h.refuse hbuilt
  have hvalue : p.ledger.value target = s.stamped (p.ref target) :=
    (h.shows.after hbuilt).value_eq target
  have hnext : p.ledger.next = p.store.cells.length := rfl
  simp only [Pool.write, Ledger.write, hresult, hnext, heq]
  cases hhandle : p.ref target with
  | none =>
    rw [hvalue, hhandle]
    exact ⟨hrefused, rfl, hledger⟩
  | some a =>
    have hroot : a ∈ rootsOf p.handles := mem_rootsOf_of_ref hhandle
    obtain ⟨cell, hcell⟩ := hbuilt.owned.live (.inl (List.mem_append_right _ hroot))
    have hread : s.read? (some a) = some cell.content := by
      rw [Store.read?, Option.bind_some, hcell]
      rfl
    have hsole := h.owners_eq_one_iff hbuilt hhandle
    rw [hvalue, hhandle, hbuilt.owned.stamped_some hcell]
    simp only [hread, Content.tag_map]
    by_cases hone : s.owners a = 1
    · have hcount : cell.owners = 1 := (Store.owners_of_cell? hcell).symm.trans hone
      rw [Store.isUnique_iff.mpr hone]
      by_cases htag : cell.content.tag = content.tag
      · -- the variable is the single owner of a datum of this type
        simp only [if_pos htag, if_pos (And.intro (hsole.mp hone) htag)]
        refine ⟨⟨h.nodup, hbuilt.owned.overwrite_owned hcell hcount hroot⟩, trivial, ?_⟩
        exact h.ledger_overwrite hbuilt hhandle hcell hcount
      · simp only [if_neg htag, if_neg fun hboth : _ ∧ _ => htag hboth.2]
        exact ⟨hrefused, trivial, hledger⟩
    · have hshared : s.isUnique (some a) = false :=
        Bool.eq_false_iff.mpr fun hunique => hone (Store.isUnique_iff.mp hunique)
      rw [hshared]
      simp only [if_neg fun hboth : _ ∧ _ => hone (hsole.mpr hboth.1)]
      exact ⟨hrefused, trivial, hledger⟩

/-- A variable takes over a handle more on a datum that is there. -/
theorem share (h : p.Owned) (href : ∀ a ∈ ref, p.store.Live a)
    (target : String) : (Pool.bind ⟨p.handles, p.store.retain ref⟩ target ref).Owned ∧
      (Pool.bind ⟨p.handles, p.store.retain ref⟩ target ref).ledger =
        p.ledger.assign target (p.store.stamped ref) p.store.cells.length := by
  have hbuilt := h.store.built_retain href
  have hbound := h.bind hbuilt target
  rw [h.store.stamped_of_grows hbuilt.owned hbuilt.grows href,
    (p.store.keeps_retain ref).length_eq] at hbound
  exact hbound

theorem live (h : p.Owned) (name : String) : ∀ a ∈ p.ref name, p.store.Live a :=
  h.store.live_of_mem fun _ ha => mem_rootsOf_of_ref ha

theorem content?_value (h : p.Owned) (source : String) : (p.ledger.value source).content? =
    (p.store.read? (p.ref source)).map (Content.map p.store.stamped) := by
  rw [value_ledger]
  exact h.store.content?_stamped _ (h.live source)

theorem share_ref (h : p.Owned) (source target : String) :
    (Pool.bind ⟨p.handles, p.store.retain (p.ref source)⟩ target (p.ref source)).Owned ∧
      (Pool.bind ⟨p.handles, p.store.retain (p.ref source)⟩ target (p.ref source)).ledger =
        p.ledger.assign target (p.ledger.value source) p.ledger.next := by
  rw [value_ledger]
  exact h.share (h.live source) target

theorem step (h : p.Owned) (step : Step) : Follows (p.step step) (p.ledger.step step) := by
  cases step with
  | make target draft =>
    obtain ⟨hbuilt, heq⟩ := Store.build_spec draft h.shows
    obtain ⟨howned, hledger⟩ := h.bind hbuilt target
    refine ⟨howned, rfl, ?_⟩
    rw [Ledger.step]
    show _ = p.ledger.assign target (Stamped.make p.ledger.value draft p.store.cells.length).1
      (Stamped.make p.ledger.value draft p.store.cells.length).2
    rw [heq]
    exact hledger
  | share source target =>
    obtain ⟨howned, hledger⟩ := h.share_ref source target
    exact ⟨howned, rfl, hledger⟩
  | drop source =>
    obtain ⟨howned, hledger⟩ := h.unbind source
    refine ⟨howned, ?_, hledger⟩
    show Outcome.flag (lookup? p.handles source).isSome =
      .flag (lookup? (mapEntries p.store.stamped p.handles) source).isSome
    rw [Registry.lookup?_mapEntries, Option.isSome_map]
  | write target draft =>
    obtain ⟨howned, hflag, hledger⟩ := h.write target draft
    exact ⟨howned, congrArg Outcome.flag hflag, hledger⟩
  | intoInner T source =>
    obtain ⟨howned, hledger⟩ := h.unbind source
    refine ⟨howned, ?_, hledger⟩
    show Outcome.read (boxed T ((p.store.view (p.ref source)).intoInner T)) =
      .read (boxed T ((p.ledger.value source).plain.extract T))
    rw [Value.intoInner_eq_extract, Store.view_eq, value_ledger, value]
  | takeValue T source =>
    obtain ⟨howned, hledger⟩ := h.unbind source
    refine ⟨howned, ?_, hledger⟩
    show Outcome.read (boxed T ((p.store.view (p.ref source)).takeValue T)) =
      .read (boxed T ((p.ledger.value source).plain.fromValue T))
    rw [Value.takeValue_eq_fromValue, Store.view_eq, value_ledger, value]
  | coerce T source target =>
    rw [Pool.step, Ledger.step, h.content?_value, retype_map]
    cases hretype : retype T (p.store.read? (p.ref source)) with
    | none => exact ⟨h, rfl, rfl⟩
    | some retyped =>
      cases retyped with
      | kept =>
        obtain ⟨howned, hledger⟩ := h.share_ref source target
        refine ⟨howned, ?_, hledger⟩
        refine congrArg (fun v => Outcome.coerced (some v)) ?_
        rw [view_eq_plain, hledger, Ledger.value_assign_self]
      | fresh content =>
        have hbuilt : p.store.Built p.store (rootsOf p.handles) content.held := by
          rw [held_of_retype_fresh hretype]
          exact h.shows.built_refl
        obtain ⟨howned, hledger⟩ := h.bind hbuilt.alloc target
        rw [hbuilt.owned.stamped_alloc, Store.length_alloc] at hledger
        refine ⟨howned, ?_, hledger⟩
        refine congrArg (fun v => Outcome.coerced (some v)) ?_
        rw [view_eq_plain, hledger, Ledger.value_assign_self]
        rfl

theorem live_innerRef (h : p.Owned) (source : String) (position : Nat) :
    ∀ a ∈ p.innerRef source position, p.store.Live a := by
  intro a ha
  obtain ⟨content, hread, hposition⟩ := Option.bind_eq_some_iff.mp ha
  obtain ⟨b, -, hb⟩ := Option.bind_eq_some_iff.mp hread
  obtain ⟨cell, hcell, rfl⟩ := Option.map_eq_some_iff.mp hb
  have hinner := List.mem_of_getElem? (Option.join_eq_some_iff.mp hposition)
  refine h.store.live (.inr ⟨b, ?_⟩)
  rw [Store.heldAt_of_cell? hcell]
  exact Content.mem_held_iff.mpr hinner

theorem innerValue_eq (h : p.Owned) (source : String) (position : Nat) :
    p.ledger.innerValue source position = p.store.stamped (p.innerRef source position) := by
  rw [Ledger.innerValue, h.content?_value, innerRef]
  cases p.store.read? (p.ref source) with
  | none => rfl
  | some content =>
    simp only [Option.map_some, Option.bind_some, Content.inner_map, List.getElem?_map]
    cases content.inner[position]? <;> rfl

/-- **Every operation on a pool is the operation on its ledger.** -/
theorem perform (h : p.Owned) (op : Op) : Follows (p.perform op) (p.ledger.perform op) := by
  cases op with
  | step step => exact h.step step
  | takeOut source position target =>
    obtain ⟨howned, hledger⟩ := h.share (h.live_innerRef source position) target
    rw [← h.innerValue_eq] at hledger
    exact ⟨howned, rfl, hledger⟩

end Owned

theorem owned_empty : Pool.Owned {} := ⟨List.nodup_nil, Store.owned_empty⟩

/-- **After any operations, the pool is what the ledger says.** -/
theorem owned_after (ops : List Op) :
    (after ops).Owned ∧ (after ops).ledger = Ledger.after ops := by
  induction ops using List.reverseRecOn with
  | nil => exact ⟨owned_empty, rfl⟩
  | append_singleton ops op ih =>
    obtain ⟨howned, hledger⟩ := ih
    have hfollows := howned.perform op
    rw [after, Ledger.after, List.foldl_append, List.foldl_append, ← after, ← Ledger.after,
      ← hledger]
    exact ⟨hfollows.owned, hfollows.ledger_eq⟩

/-! ### What is seen -/

/-- Whether the subject of an operation has its datum in common with another variable `y`
afterwards.  What is cloned, or kept by a coercion, has it in common with whatever its source had;
what is made or widened, with nothing; and null with null. -/
def Op.relates (p : Pool) : Op → (y : String) → Bool
  | .step (.make _ .null), y => (p.ref y).isNone
  | .step (.make _ (.sharing x)), y => p.same x y
  | .step (.make _ (.boxed _)), _ => false
  | .step (.share source _), y => p.same source y
  | .step (.write target _), y => p.same target y
  | .step (.coerce T source target), y =>
    match (p.view source).retyped? T with
    | none => p.same target y
    | some .kept => p.same source y
    | some (.fresh _) => false
  | .step (.drop _), y | .step (.intoInner _ _), y | .step (.takeValue _ _), y => (p.ref y).isNone
  | .takeOut source position _, y => p.innerRef source position = p.ref y

/-- A pool is seen as a ledger of values that nobody shares. -/
structure LooksLike (p : Pool) (l : Ledger) : Prop where
  value_eq : ∀ x, p.value x = l.value x
  view_eq : ∀ x, p.view x = (l.value x).plain
  outcome_eq : ∀ op, (p.perform op).1 = (l.perform op).1
  same_iff : ∀ x y, p.same x y = true ↔ (l.value x).stamp? = (l.value y).stamp?
  /-- A variable is the sole owner of its datum if no other variable has it, be it as its own or
  somewhere inside. -/
  isUnique_iff : ∀ x, p.isUnique x = true ↔
    ∃ stamp, (l.value x).stamp? = some stamp ∧ ∀ y, y ≠ x → stamp ∉ (l.value y).stamps
  fresh : ∀ x, ∀ stamp ∈ (l.value x).stamps, stamp < l.next

/-- A handle is the only one on its cell if there is no other, be it in a variable or in a datum;
and every datum stands in the value of some variable. -/
structure Tallied (p : Pool) : Prop where
  isUnique_iff : ∀ a, p.store.isUnique (some a) = true ↔
    (rootsOf p.handles).count a + p.store.inward a = 1
  reached : ∀ a, p.store.Live a → ∃ x, a ∈ (p.value x).stamps

/-- The one variable an operation is about is the one it changes. -/
structure Confined (p : Pool) (op : Op) : Prop where
  value_eq : ∀ x, x ≠ op.subject → (p.perform op).2.value x = p.value x
  view_eq : ∀ x, x ≠ op.subject → (p.perform op).2.view x = p.view x
  same_eq : ∀ x y, x ≠ op.subject → y ≠ op.subject → (p.perform op).2.same x y = p.same x y
  same_subject : ∀ y, y ≠ op.subject → (p.perform op).2.same op.subject y = op.relates p y

/-- A write goes through at the sole owner of a datum of the same type, unless the new datum holds
the old one.  The datum is exchanged then, and its address stays; else nothing is. -/
structure WritesAlone (p : Pool) (x : String) (draft : Content Draft) : Prop where
  written_iff : (p.write x draft).1 = true ↔ p.isUnique x = true ∧
    (p.view x).tag? = some draft.tag ∧
    ∀ v ∈ (Stamped.makeContent p.value draft p.store.cells.length).1.inner,
      ∀ stamp ∈ (p.value x).stamp?, stamp ∉ v.stamps
  written : (p.write x draft).1 = true → ∃ stamp, (p.value x).stamp? = some stamp ∧
    (p.write x draft).2.value x =
      .boxed stamp (Stamped.makeContent p.value draft p.store.cells.length).1
  refused : (p.write x draft).1 = false → ∀ y, (p.write x draft).2.value y = p.value y

/-- A step gives the variable `x` up for what reading its datum at type `T` would have given.
Whoever had the datum in common with `x` only is its sole owner then. -/
structure GivesUp (p : Pool) (step : Step) (T : TypeTag) (x : String) : Prop where
  outcome_eq : (p.step step).1 = .read (boxed T ((p.view x).extract T))
  gone : (p.step step).2.ref? x = none
  isUnique_iff : ∀ y, y ≠ x → ((p.step step).2.isUnique y = true ↔
    ∃ stamp, (p.value y).stamp? = some stamp ∧
      ∀ z, z ≠ x → z ≠ y → stamp ∉ (p.value z).stamps)

namespace Owned

theorem stamp?_value (h : p.Owned) (x : String) : (p.value x).stamp? = p.ref x :=
  h.store.stamp?_stamped (h.live x)

theorem same_iff (h : p.Owned) (x y : String) :
    p.same x y = true ↔ (p.value x).stamp? = (p.value y).stamp? := by
  rw [h.stamp?_value, h.stamp?_value]
  exact decide_eq_true_iff

/-- What is said of the other variables is said of their values. -/
theorem forall_others_iff (h : p.Owned) {P : Stamped → Prop} (hnull : P .null) (x : String) :
    (∀ v ∈ p.ledger.others x, P v) ↔ ∀ y, y ≠ x → P (p.value y) := by
  have hkeys : (keys p.ledger.values).Nodup := by
    have hsame : keys p.ledger.values = keys p.handles := List.map_map
    rw [hsame]
    exact h.nodup
  constructor
  · intro hall y hy
    rw [← value_ledger, Ledger.value, Ledger.value?]
    cases hlookup : lookup? p.ledger.values y with
    | none => exact hnull
    | some v =>
      have hmem := Registry.mem_of_lookup? hlookup
      exact hall v (List.mem_map.mpr ⟨_, List.mem_filter.mpr ⟨hmem, decide_eq_true hy⟩, rfl⟩)
  · intro hall v hv
    obtain ⟨⟨y, w⟩, hentry, rfl⟩ := List.mem_map.mp hv
    obtain ⟨hmem, hy⟩ := List.mem_filter.mp hentry
    have hvalue : p.value y = w := by
      rw [← value_ledger, Ledger.value, Ledger.value?, Registry.lookup?_of_mem hkeys hmem]
      rfl
    rw [← hvalue]
    exact hall y (of_decide_eq_true hy)

/-- **A variable is the sole owner of its datum if no other variable has it**, be it as its own or
somewhere inside. -/
theorem isUnique_iff (h : p.Owned) (x : String) : p.isUnique x = true ↔
    ∃ stamp, (p.value x).stamp? = some stamp ∧ ∀ y, y ≠ x → stamp ∉ (p.value y).stamps := by
  rw [h.stamp?_value, Pool.isUnique]
  cases href : p.ref x with
  | none =>
    refine iff_of_false Bool.false_ne_true ?_
    rintro ⟨stamp, hstamp, -⟩
    cases hstamp
  | some a =>
    -- nothing was made besides: the datum without inner values stands for that
    have hbuilt : p.store.Built p.store (rootsOf p.handles) (Content.optional none).held :=
      h.shows.built_refl
    rw [Store.isUnique_iff, h.owners_eq_one_iff hbuilt href]
    have hothers := h.forall_others_iff (P := (a ∉ ·.stamps)) (Stamped.not_mem_stamps_null a) x
    constructor
    · exact fun hone => ⟨a, rfl, hothers.mp hone⟩
    · rintro ⟨_, ⟨⟩, hnone⟩
      exact hothers.mpr hnone

theorem fresh (h : p.Owned) (x : String) :
    ∀ stamp ∈ (p.value x).stamps, stamp < p.store.cells.length := by
  intro stamp hstamp
  rw [value] at hstamp
  cases href : p.ref x with
  | none =>
    rw [href] at hstamp
    cases hstamp
  | some a =>
    rw [href] at hstamp
    obtain ⟨cell, hcell⟩ := h.store.live_of_mem_stamps (h.live x a href) hstamp
    exact Store.lt_of_cell? hcell

theorem tallied (h : p.Owned) : p.Tallied where
  isUnique_iff a := by
    rw [Store.isUnique_iff, h.store.counted.owners_eq]
  reached := by
    rintro a ⟨cell, hcell⟩
    obtain ⟨r, hr, hreach⟩ := h.store.exists_root hcell
    obtain ⟨⟨x, ref⟩, hentry, hmem⟩ := List.mem_flatMap.mp hr
    obtain rfl : ref = some r := Option.mem_toList.mp hmem
    have href : p.ref x = some r :=
      Option.join_eq_some_iff.mpr (Registry.lookup?_of_mem h.nodup hentry)
    refine ⟨x, ?_⟩
    rw [value, href]
    exact (h.store.mem_stamps_iff (h.live x r href)).mpr hreach

theorem looksLike (h : p.Owned) : p.LooksLike p.ledger where
  value_eq x := (p.value_ledger x).symm
  view_eq := p.view_eq_plain
  outcome_eq op := (h.perform op).outcome_eq
  same_iff x y := by
    rw [value_ledger, value_ledger]
    exact h.same_iff x y
  isUnique_iff x := by
    simp only [value_ledger]
    exact h.isUnique_iff x
  fresh x := by
    rw [value_ledger]
    exact h.fresh x

/-- The value a variable has after an operation is that of the ledger. -/
theorem value_perform (h : p.Owned) (op : Op) (x : String) :
    (p.perform op).2.value x = (p.ledger.perform op).2.value x := by
  rw [← value_ledger, (h.perform op).ledger_eq]

theorem value_perform_ne (h : p.Owned) {op : Op} {x : String} (hx : x ≠ op.subject) :
    (p.perform op).2.value x = p.value x := by
  rw [h.value_perform, p.ledger.value_perform_ne hx, value_ledger]

/-- The address the subject of an operation has then decides what it has in common with others. -/
theorem same_of_stamp? (h : p.Owned) {op : Op} {y : String} (hy : y ≠ op.subject) {stamp? : Ref}
    (hstamp : ((p.ledger.perform op).2.value op.subject).stamp? = stamp?) :
    (p.perform op).2.same op.subject y = decide (stamp? = p.ref y) := by
  have howned := (h.perform op).owned
  rw [Pool.same, ← howned.stamp?_value, ← howned.stamp?_value, h.value_perform_ne hy,
    h.value_perform, hstamp, h.stamp?_value]

/-- No variable has a datum yet that is made only now. -/
theorem ne_ref_of_built (h : p.Owned) (hbuilt : p.store.Built s (rootsOf p.handles) held)
    (y : String) : decide (some s.cells.length = p.ref y) = false := by
  refine decide_eq_false fun hy => ?_
  obtain ⟨cell, hcell⟩ := h.live y _ hy.symm
  obtain ⟨cell', hcell', -⟩ := hbuilt.grows _ cell hcell
  exact Nat.lt_irrefl _ (Store.lt_of_cell? hcell')

/-- **What two variables have in common** comes from operations that pass a handle on. -/
theorem same_subject (h : p.Owned) {op : Op} {y : String} (hy : y ≠ op.subject) :
    (p.perform op).2.same op.subject y = op.relates p y := by
  have hnone : decide (none = p.ref y) = (p.ref y).isNone := by
    cases p.ref y <;> rfl
  have hcopied : ∀ source, (p.ledger.value source).stamp? = p.ref source := by
    intro source
    rw [value_ledger, h.stamp?_value]
  have hgone : ∀ name, ((p.ledger.erase name).value name).stamp? = none := by
    intro name
    rw [Ledger.value_erase_self]
    rfl
  cases op with
  | takeOut source position target =>
    refine h.same_of_stamp? hy ?_
    rw [Ledger.perform, Op.subject, Ledger.value_assign_self, h.innerValue_eq]
    exact h.store.stamp?_stamped (h.live_innerRef source position)
  | step step =>
    cases step with
    | make target draft =>
      cases draft with
      | null =>
        rw [h.same_of_stamp? hy (congrArg Stamped.stamp? (Ledger.value_assign_self ..))]
        exact hnone
      | sharing x =>
        rw [h.same_of_stamp? hy (congrArg Stamped.stamp? (Ledger.value_assign_self ..))]
        show decide ((p.ledger.value x).stamp? = p.ref y) = decide (p.ref x = p.ref y)
        rw [hcopied]
      | boxed content =>
        obtain ⟨hbuilt, heq⟩ := Store.buildContent_spec content h.shows
        rw [h.same_of_stamp? hy (congrArg Stamped.stamp? (Ledger.value_assign_self ..))]
        show decide (some (Stamped.makeContent p.ledger.value content p.store.cells.length).2 =
          p.ref y) = false
        rw [heq]
        exact h.ne_ref_of_built hbuilt y
    | share source target =>
      refine h.same_of_stamp? hy ?_
      rw [← hcopied source]
      exact congrArg Stamped.stamp? (Ledger.value_assign_self ..)
    | drop source =>
      rw [h.same_of_stamp? hy (hgone source)]
      exact hnone
    | intoInner T source =>
      rw [h.same_of_stamp? hy (hgone source)]
      exact hnone
    | takeValue T source =>
      rw [h.same_of_stamp? hy (hgone source)]
      exact hnone
    | write target draft =>
      refine h.same_of_stamp? hy ?_
      rw [← hcopied target]
      rcases p.ledger.write_cases target draft with ⟨stamp, hwritable, hwrite⟩ | ⟨-, hwrite⟩
      · rw [Ledger.perform, Ledger.step, hwrite, hwritable.1]
        exact congrArg Stamped.stamp? (Ledger.value_assign_self ..)
      · rw [Ledger.perform, Ledger.step, hwrite]
        rfl
    | coerce T source target =>
      rw [Op.relates, p.retyped?_view]
      cases hretype : retype T (p.ledger.value source).content? with
      | none =>
        refine h.same_of_stamp? hy ?_
        rw [Ledger.perform, Ledger.step, hretype, ← hcopied target]
        rfl
      | some retyped =>
        cases retyped with
        | kept =>
          refine h.same_of_stamp? hy ?_
          rw [Ledger.perform, Ledger.step, hretype, ← hcopied source]
          exact congrArg Stamped.stamp? (Ledger.value_assign_self ..)
        | fresh content =>
          refine (h.same_of_stamp? hy ?_).trans (h.ne_ref_of_built h.shows.built_refl y)
          rw [Ledger.perform, Ledger.step, hretype]
          exact congrArg Stamped.stamp? (Ledger.value_assign_self ..)

/-- **An operation is about one variable.** -/
theorem confined (h : p.Owned) (op : Op) : p.Confined op where
  value_eq x hx := h.value_perform_ne hx
  view_eq x hx := by
    rw [view_eq_plain, view_eq_plain, value_ledger, value_ledger, h.value_perform_ne hx]
  same_eq x y hx hy := by
    rw [Bool.eq_iff_iff, (h.perform op).owned.same_iff, h.same_iff, h.value_perform_ne hx,
      h.value_perform_ne hy]
  same_subject y hy := h.same_subject hy

/-- A variable is written to where the ledger says so. -/
theorem writable_iff (h : p.Owned) (x : String) (draft : Content Draft) :
    (∃ stamp, p.ledger.Writable x draft stamp) ↔ p.isUnique x = true ∧
      (p.view x).tag? = some draft.tag ∧
      ∀ v ∈ (Stamped.makeContent p.value draft p.store.cells.length).1.inner,
        ∀ stamp ∈ (p.value x).stamp?, stamp ∉ v.stamps := by
  have hvalues : p.ledger.value = p.value := funext p.value_ledger
  have htag : (p.view x).tag? = (p.value x).content?.map Content.tag := by
    rw [view_eq_plain, value_ledger, Value.tag?, Stamped.content?_plain, Option.map_map]
    exact congrArg (Option.map · _) (funext (Content.tag_map Stamped.plain))
  have hothers : ∀ stamp, (∀ v ∈ p.ledger.others x, stamp ∉ v.stamps) ↔
      ∀ y, y ≠ x → stamp ∉ (p.value y).stamps := fun stamp =>
    h.forall_others_iff (P := (stamp ∉ ·.stamps)) (Stamped.not_mem_stamps_null stamp) x
  rw [h.isUnique_iff, htag]
  simp only [Ledger.Writable, hvalues, List.mem_append, or_imp, forall_and, hothers]
  constructor
  · rintro ⟨stamp, hstamp, htag, hinner, hnone⟩
    refine ⟨⟨stamp, hstamp, hnone⟩, htag, fun v hv stamp' hstamp' => ?_⟩
    rw [hstamp] at hstamp'
    cases hstamp'
    exact hinner v hv
  · rintro ⟨⟨stamp, hstamp, hnone⟩, htag, hinner⟩
    exact ⟨stamp, hstamp, htag, fun v hv => hinner v hv stamp hstamp, hnone⟩

/-- **A write is seen at the sole owner of the datum, and nowhere else.** -/
theorem writesAlone (h : p.Owned) (x : String) (draft : Content Draft) :
    p.WritesAlone x draft := by
  obtain ⟨-, hflag, hledger⟩ := h.write x draft
  have hvalues : p.ledger.value = p.value := funext p.value_ledger
  have hwritable := h.writable_iff x draft
  rcases p.ledger.write_cases x draft with ⟨stamp, hstamp, hwrite⟩ | ⟨hnone, hwrite⟩
  · rw [hwrite] at hflag hledger
    refine ⟨iff_of_true hflag (hwritable.mp ⟨stamp, hstamp⟩), fun _ => ⟨stamp, ?_, ?_⟩, ?_⟩
    · rw [← value_ledger]
      exact hstamp.1
    · rw [← value_ledger, hledger, Ledger.value_assign_self, hvalues]
      rfl
    · intro hrefused
      rw [hflag] at hrefused
      cases hrefused
  · rw [hwrite] at hflag hledger
    have hfailed : ¬ (p.write x draft).1 = true := fun hwritten => by
      rw [hflag] at hwritten
      cases hwritten
    refine ⟨iff_of_false hfailed fun hall => ?_, fun hwritten => absurd hwritten hfailed, ?_⟩
    · obtain ⟨stamp, hstamp⟩ := hwritable.mpr hall
      exact hnone stamp hstamp
    · intro _ y
      rw [← value_ledger, hledger, ← value_ledger]
      rfl

/-- **Who is given up leaves the datum to the others.** -/
theorem givesUp (h : p.Owned) {step : Step} {T : TypeTag} {x : String}
    (houtcome : (p.step step).1 = .read (boxed T ((p.view x).extract T)))
    (hpool : (p.step step).2 = p.unbind x) : p.GivesUp step T x where
  outcome_eq := houtcome
  gone := by
    rw [hpool]
    exact Registry.lookup?_erase_self p.handles x
  isUnique_iff := by
    intro y hy
    obtain ⟨howned, hledger⟩ := h.unbind x
    have hgone : (p.unbind x).value x = .null := by
      rw [← value_ledger, hledger, Ledger.value_erase_self]
    have hkept : ∀ z, z ≠ x → (p.unbind x).value z = p.value z := by
      intro z hz
      rw [← value_ledger, hledger, Ledger.value_erase_ne hz, value_ledger]
    rw [hpool, howned.isUnique_iff, hkept y hy]
    refine exists_congr fun stamp => and_congr_right fun _ => ?_
    constructor
    · intro hnone z hz hzy
      rw [← hkept z hz]
      exact hnone z hzy
    · intro hnone z hzy
      by_cases hz : z = x
      · rw [hz, hgone]
        exact Stamped.not_mem_stamps_null stamp
      · rw [hkept z hz]
        exact hnone z hz hzy

end Owned

end Pool

/-- **Shared data behave as values that every variable has for itself.**  After any operations, what
is seen through variables, what is reported, which variables have a datum in common and which are
the sole owners of theirs is what a ledger says, on which values are copied and nothing is counted.
Every operation is confined to its subject; a write is seen nowhere but at the sole owner of a
datum; and a variable that is given up for its datum, whether it is of the type asked for or not,
yields what copying the datum would have, and leaves the datum to the others. -/
theorem shared_as_copied (ops : List Pool.Op) :
    (Pool.after ops).LooksLike (Ledger.after ops) ∧ (Pool.after ops).Tallied ∧
    (∀ op, (Pool.after ops).Confined op) ∧
    (∀ x draft, (Pool.after ops).WritesAlone x draft) ∧
    ∀ T x, (Pool.after ops).GivesUp (.intoInner T x) T x ∧
      (T ≠ .any → (Pool.after ops).GivesUp (.takeValue T x) T x) := by
  obtain ⟨howned, hledger⟩ := Pool.owned_after ops
  refine ⟨?_, howned.tallied, howned.confined, howned.writesAlone, fun T x => ⟨?_, fun hT => ?_⟩⟩
  · rw [← hledger]
    exact howned.looksLike
  · refine howned.givesUp ?_ rfl
    rw [← Value.intoInner_eq_extract]
    rfl
  · refine howned.givesUp ?_ rfl
    rw [← Value.fromValue_of_ne_any hT, ← Value.takeValue_eq_fromValue]
    rfl

/-- A text that two variables have in common is not written to through either.  Once one of them has
been given up for a truth value, which it is not, it is written to through the other. -/
theorem shared_as_copied_clone :
    ((Pool.after [.step (.make "a" (.boxed (.leaf .text "x"))), .step (.share "a" "b")]).perform
      (.step (.write "b" (.leaf .text "y")))).1 = .flag false ∧
    ((Pool.after [.step (.make "a" (.boxed (.leaf .text "x"))), .step (.share "a" "b"),
      .step (.intoInner .bool "a")]).perform (.step (.write "b" (.leaf .text "y")))).1 =
        .flag true ∧
    (Pool.after [.step (.make "a" (.boxed (.leaf .text "x"))), .step (.share "a" "b"),
      .step (.intoInner .bool "a"), .step (.write "b" (.leaf .text "y"))]).view "b" =
        .text "y" := by
  refine ⟨?_, ?_, ?_⟩
  · rw [(shared_as_copied _).1.outcome_eq]
    rfl
  · rw [(shared_as_copied _).1.outcome_eq]
    rfl
  · rw [(shared_as_copied _).1.view_eq]
    rfl

end LateBinding
