import Mathlib.Data.List.Dedup
import LateBinding.Proofs.Table

/-!
# The name table of a registry

A registry keeps its types in one table and their names in another.  A registration updates both,
and on the way a name may change hands.  This file shows that the two never drift apart, whatever is
registered in whatever order.

* `Registry.Settled`, `Registry.settled_releaseName` — the name table is right about one name, and a
  name that is given up is left so;
* `Registry.Consistent`, `Registry.consistent_insert` — it is right about every name, and a
  registration keeps it so;
* `Registry.Run`, `Registry.Run.consistent`, `Registry.Run.mem_types_iff` — sequences of calls,
  which may be nested, what they preserve, and which types they leave registered;
* `nameTable_exact` — **the names in the table are those that registered types bear**.
-/

namespace LateBinding

namespace Registry

/-! ### One name -/

/-- A name is borne by a registered type. -/
def Bears (r : Registry) (name : String) : Prop := ∃ T t, r.get? T = some t ∧ t.name = name

/-- The name table is right about a name: what it stands for is registered under it, and it stands
for something if any registered type bears it. -/
structure Settled (r : Registry) (name : String) : Prop where
  held : ∀ T, lookup? r.byName name = some T → ∃ t, r.get? T = some t ∧ t.name = name
  borne : r.Bears name → (lookup? r.byName name).isSome

variable {r : Registry} {T : TypeTag} {t : TypeDef}

/-- A definition stored in place of an earlier one, before the names are updated. -/
def store (r : Registry) (T : TypeTag) (t : TypeDef) : Registry :=
  { r with byType := enter typeBefore T t r.byType }

theorem get?_store (r : Registry) (T : TypeTag) (t : TypeDef) (U : TypeTag) :
    (r.store T t).get? U = if U = T then some t else r.get? U := by
  by_cases hU : U = T
  · rw [if_pos hU, hU]
    exact lookup?_enter_self typeBefore T t r.byType
  · rw [if_neg hU]
    exact lookup?_enter_ne hU t r.byType

/-- Storing a definition matters only to its own name and to the one of the earlier definition. -/
theorem settled_store {name : String} (h : r.Settled name) (hnew : t.name ≠ name)
    (hold : ∀ previous, r.get? T = some previous → previous.name ≠ name) :
    (r.store T t).Settled name where
  held := by
    intro U hU
    obtain ⟨u, hu, hname⟩ := h.held U hU
    refine ⟨u, ?_, hname⟩
    have hne : U ≠ T := by
      rintro rfl
      exact hold u hu hname
    rw [get?_store, if_neg hne, hu]
  borne := by
    rintro ⟨U, u, hu, hname⟩
    refine h.borne ⟨U, u, ?_, hname⟩
    rw [get?_store] at hu
    split at hu
    · cases hu
      exact absurd hname hnew
    · exact hu

theorem mem_heirs_iff (hkeys : (keys r.byType).Nodup) {name : String} {former U : TypeTag} :
    U ∈ r.heirs name former ↔ U ≠ former ∧ ∃ u, r.get? U = some u ∧ u.name = name := by
  simp only [heirs, List.mem_map, List.mem_filter, Bool.and_eq_true, decide_eq_true_eq]
  constructor
  · rintro ⟨⟨V, u⟩, ⟨hmem, hne, hname⟩, rfl⟩
    exact ⟨hne, u, lookup?_of_mem hkeys hmem, hname⟩
  · rintro ⟨hne, u, hu, hname⟩
    exact ⟨(U, u), ⟨mem_of_lookup? hu, hne, hname⟩, rfl⟩

theorem byType_releaseName (r : Registry) (name : String) (former : TypeTag) :
    (r.releaseName name former).byType = r.byType := by
  rw [releaseName]
  split
  · split <;> rfl
  · rfl

theorem get?_releaseName (r : Registry) (name : String) (former U : TypeTag) :
    (r.releaseName name former).get? U = r.get? U := by
  rw [get?, byType_releaseName]
  rfl

/-- Only the name that is given up changes hands. -/
theorem lookup?_releaseName_ne {name name' : String} (hne : name' ≠ name) (former : TypeTag) :
    lookup? (r.releaseName name former).byName name' = lookup? r.byName name' := by
  rw [releaseName]
  split
  · split
    · exact lookup?_update_ne hne _ _
    · exact lookup?_erase_ne hne _
  · rfl

/-- The name goes to the first heir, if it stood for the type that gives it up. -/
theorem lookup?_releaseName_self (r : Registry) (name : String) (former : TypeTag) :
    lookup? (r.releaseName name former).byName name =
      if lookup? r.byName name = some former then (r.heirs name former).head?
      else lookup? r.byName name := by
  rw [releaseName]
  by_cases hholder : lookup? r.byName name = some former
  · rw [if_pos hholder, if_pos hholder]
    cases r.heirs name former with
    | nil => exact lookup?_erase_self _ _
    | cons heir others => exact lookup?_update_self _ _ _
  · rw [if_neg hholder, if_neg hholder]

/-- **A name that is given up is settled afterwards.**  Until then it may still stand for the type
that gave it up, which bears it no longer. -/
theorem settled_releaseName {name : String} (hkeys : (keys r.byType).Nodup)
    (hformer : ∀ t, r.get? T = some t → t.name ≠ name)
    (hheld : ∀ U, U ≠ T → lookup? r.byName name = some U → ∃ u, r.get? U = some u ∧ u.name = name)
    (hborne : r.Bears name → (lookup? r.byName name).isSome) :
    (r.releaseName name T).Settled name := by
  -- who bears the name is another type, and so an heir
  have hheir : ∀ U, U ∈ r.heirs name T ↔ ∃ u, r.get? U = some u ∧ u.name = name := by
    intro U
    rw [mem_heirs_iff hkeys]
    refine ⟨And.right, fun h => ⟨?_, h⟩⟩
    rintro rfl
    obtain ⟨u, hu, hname⟩ := h
    exact hformer u hu hname
  constructor
  · intro U hU
    rw [lookup?_releaseName_self] at hU
    simp only [get?_releaseName]
    split at hU
    · exact (hheir U).mp (List.mem_of_head? hU)
    · rename_i hother
      refine hheld U ?_ hU
      rintro rfl
      exact hother hU
  · intro hbears
    simp only [Bears, get?_releaseName] at hbears
    rw [lookup?_releaseName_self]
    split
    · obtain ⟨U, hU⟩ := hbears
      exact List.isSome_head?.mpr (List.ne_nil_of_mem ((hheir U).mpr hU))
    · exact hborne hbears

/-- The registry when a definition is stored and the name of the earlier one given up. -/
def released (r : Registry) (T : TypeTag) (t : TypeDef) : Registry :=
  match r.get? T with
  | some previous =>
    if previous.name ≠ t.name then (r.store T t).releaseName previous.name T else r.store T t
  | none => r.store T t

theorem byType_released (r : Registry) (T : TypeTag) (t : TypeDef) :
    (r.released T t).byType = enter typeBefore T t r.byType := by
  rw [released]
  split
  · split
    · exact byType_releaseName _ _ _
    · rfl
  · rfl

theorem byType_insert (r : Registry) (T : TypeTag) (t : TypeDef) :
    (r.insert T t).byType = enter typeBefore T t r.byType := byType_released r T t

/-- After a registration the type has the new definition, and all others have theirs. -/
theorem get?_insert (r : Registry) (T : TypeTag) (t : TypeDef) (U : TypeTag) :
    (r.insert T t).get? U = if U = T then some t else r.get? U := by
  rw [← get?_store r T t U, get?, byType_insert]
  rfl

/-! ### All names -/

/-- No table has a key twice, and the name table is right about every name. -/
structure Consistent (r : Registry) : Prop where
  types_nodup : (keys r.byType).Nodup
  names_nodup : (keys r.byName).Nodup
  settled : ∀ name, r.Settled name

theorem Settled.congr {r' : Registry} {name : String} (h : r.Settled name)
    (hget : ∀ U, r'.get? U = r.get? U)
    (hlookup : lookup? r'.byName name = lookup? r.byName name) : r'.Settled name where
  held := by
    intro U hU
    rw [hlookup] at hU
    simp only [hget]
    exact h.held U hU
  borne := by
    simp only [Bears, hget, hlookup]
    exact h.borne

/-- The name of the earlier definition is settled when it is given up.  Until then it may stand for
the type, which bears another one by now. -/
theorem settled_givenUp (h : r.Consistent) (previous : TypeDef) (hname : t.name ≠ previous.name) :
    ((r.store T t).releaseName previous.name T).Settled previous.name := by
  refine settled_releaseName (nodup_keys_enter h.types_nodup) ?_ ?_ ?_
  · intro u hu
    rw [get?_store, if_pos rfl] at hu
    cases hu
    exact hname
  · intro U hne hU
    simp only [get?_store, if_neg hne]
    exact (h.settled previous.name).held U hU
  · rintro ⟨U, u, hu, hu'⟩
    rw [get?_store] at hu
    split at hu
    · cases hu
      exact absurd hu' hname
    · exact (h.settled previous.name).borne ⟨U, u, hu, hu'⟩

/-- Before the new name is entered, the table is right about all others. -/
theorem settled_released (h : r.Consistent) {name : String} (hname : t.name ≠ name) :
    (r.released T t).Settled name := by
  rw [released]
  cases hprevious : r.get? T with
  | none =>
    refine settled_store (h.settled name) hname ?_
    intro previous hsome
    rw [hprevious] at hsome
    cases hsome
  | some previous =>
    have hstore : previous.name ≠ name → (r.store T t).Settled name := by
      intro hne
      refine settled_store (h.settled name) hname ?_
      intro p hp
      rw [hprevious] at hp
      cases hp
      exact hne
    by_cases hsame : previous.name = t.name
    · simp only [hsame, ne_eq, not_true_eq_false, if_false]
      exact hstore (hsame ▸ hname)
    simp only [ne_eq, hsame, not_false_eq_true, if_true]
    by_cases hgiven : previous.name = name
    · rw [← hgiven]
      exact settled_givenUp h previous (Ne.symm hsame)
    · exact (hstore hgiven).congr (get?_releaseName _ _ _)
        (lookup?_releaseName_ne (Ne.symm hgiven) T)

/-- **A registration settles every name.** -/
theorem settled_insert (h : r.Consistent) (name : String) : (r.insert T t).Settled name := by
  by_cases hname : t.name = name
  · -- the new name is entered last, whatever happened to it before
    subst hname
    have hholder : lookup? (r.insert T t).byName t.name = some T := lookup?_update_self _ _ _
    constructor
    · intro U hU
      rw [hholder] at hU
      cases hU
      exact ⟨t, by rw [get?_insert, if_pos rfl], rfl⟩
    · intro _
      rw [hholder]
      rfl
  · have hreleased : (r.released T t).Settled name := settled_released h hname
    refine hreleased.congr ?_ ?_
    · intro U
      rw [get?, get?, byType_insert, byType_released]
    · exact lookup?_update_ne (Ne.symm hname) _ _

theorem names_nodup_released (h : (keys r.byName).Nodup) :
    (keys (r.released T t).byName).Nodup := by
  rw [released]
  split
  · split
    · rw [releaseName]
      split
      · split
        · exact nodup_keys_update h
        · exact nodup_keys_erase h
      · exact h
    · exact h
  · exact h

/-- **A registration keeps a registry consistent.** -/
theorem consistent_insert (h : r.Consistent) (T : TypeTag) (t : TypeDef) :
    (r.insert T t).Consistent where
  types_nodup := by
    rw [byType_insert]
    exact nodup_keys_enter h.types_nodup
  names_nodup := nodup_keys_update (names_nodup_released h.names_nodup)
  settled := settled_insert h

theorem mem_types_insert {U : TypeTag} :
    U ∈ keys (r.insert T t).byType ↔ U = T ∨ U ∈ keys r.byType := by
  rw [byType_insert]
  exact mem_keys_enter

/-- An empty registry is consistent. -/
theorem consistent_empty : Consistent {} where
  types_nodup := List.nodup_nil
  names_nodup := List.nodup_nil
  settled := fun _ => ⟨nofun, fun ⟨_, _, h, _⟩ => nomatch h⟩

/-! ### Sequences of calls -/

/-- A sequence of calls that leads from a registry to another one, with the types it registers.  A
definition that is asked for and not there is built, and the building may call the registry in turn.
The tables have no order of their own: it may be any at any time. -/
inductive Run : Registry → List TypeTag → Registry → Prop
  | done (r : Registry) : Run r [] r
  | reordered {r r' r'' : Registry} {ever : List TypeTag} (before : Run r ever r')
      (types : r'.byType.Perm r''.byType) (names : r'.byName.Perm r''.byName) : Run r ever r''
  | registered {r r' : Registry} {ever : List TypeTag} (before : Run r ever r') (t : TypeDef) :
      Run r (ever ++ [t.type]) (r'.register t)
  | found {r r' : Registry} {ever : List TypeTag} (before : Run r ever r') {T : TypeTag}
      {t : TypeDef} (present : r'.get? T = some t) (build : Registry → Registry × TypeDef) :
      Run r ever (r'.getOrRegister T build).1
  | built {r r' : Registry} {ever inner : List TypeTag} (before : Run r ever r') {T : TypeTag}
      (absent : r'.get? T = none) (build : Registry → Registry × TypeDef)
      (building : Run r' inner (build r').1) :
      Run r (ever ++ (inner ++ [T])) (r'.getOrRegister T build).1

namespace Run

variable {r r' r'' : Registry} {ever later : List TypeTag}

/-- Sequences of calls follow each other.  So a state in the middle of a building is reached as
well. -/
theorem trans (h : Run r ever r') (h' : Run r' later r'') : Run r (ever ++ later) r'' := by
  induction h' with
  | done r => rw [List.append_nil]; exact h
  | reordered _ types names ih => exact (ih h).reordered types names
  | registered _ t ih => rw [← List.append_assoc]; exact (ih h).registered t
  | found _ present build ih => exact (ih h).found present build
  | built _ absent build building ih _ =>
    rw [← List.append_assoc]
    exact (ih h).built absent build building

end Run

theorem get?_eq_of_perm {r' : Registry} (hkeys : (keys r.byType).Nodup)
    (types : r.byType.Perm r'.byType) (U : TypeTag) : r'.get? U = r.get? U :=
  (lookup?_perm hkeys types U).symm

theorem consistent_of_perm {r' : Registry} (h : r.Consistent) (types : r.byType.Perm r'.byType)
    (names : r.byName.Perm r'.byName) : r'.Consistent where
  types_nodup := (types.map _).nodup_iff.mp h.types_nodup
  names_nodup := (names.map _).nodup_iff.mp h.names_nodup
  settled := fun name => (h.settled name).congr (get?_eq_of_perm h.types_nodup types)
    (lookup?_perm h.names_nodup names name).symm

theorem getOrRegister_of_present (present : r.get? T = some t)
    (build : Registry → Registry × TypeDef) : (r.getOrRegister T build).1 = r := by
  simp only [getOrRegister, present]

/-- What is built is registered, unless the type was registered meanwhile. -/
theorem getOrRegister_of_absent (absent : r.get? T = none)
    (build : Registry → Registry × TypeDef) :
    (r.getOrRegister T build).1 =
      if T ∈ keys (build r).1.byType then (build r).1 else (build r).1.insert T (build r).2 := by
  simp only [getOrRegister, absent]
  by_cases hmem : T ∈ keys (build r).1.byType
  · obtain ⟨existing, hexisting⟩ := Option.isSome_iff_exists.mp (isSome_lookup?_iff.mpr hmem)
    have hget : (build r).1.get? T = some existing := hexisting
    rw [if_pos hmem]
    simp only [hget]
  · have hget : (build r).1.get? T = none :=
      Option.not_isSome_iff_eq_none.mp fun h => hmem (isSome_lookup?_iff.mp h)
    rw [if_neg hmem]
    simp only [hget]

/-- **Consistency is kept by every sequence of calls.** -/
theorem Run.consistent {r' : Registry} {ever : List TypeTag} (h : Run r ever r')
    (hr : r.Consistent) : r'.Consistent := by
  induction h with
  | done r => exact hr
  | reordered _ types names ih => exact consistent_of_perm (ih hr) types names
  | registered _ t ih => exact consistent_insert (ih hr) t.type t
  | found _ present build ih =>
    rw [getOrRegister_of_present present]
    exact ih hr
  | built _ absent build _ ih ihbuilding =>
    rw [getOrRegister_of_absent absent]
    split
    · exact ihbuilding (ih hr)
    · exact consistent_insert (ihbuilding (ih hr)) _ _

/-- **The types registered in the end are those that were there and those ever registered.** -/
theorem Run.mem_types_iff {r' : Registry} {ever : List TypeTag} (h : Run r ever r') {U : TypeTag} :
    U ∈ keys r'.byType ↔ U ∈ keys r.byType ∨ U ∈ ever := by
  induction h with
  | done r => exact ⟨.inl, fun h => h.resolve_right (List.not_mem_nil)⟩
  | reordered _ types _ ih => exact (types.map (·.1)).mem_iff.symm.trans ih
  | registered _ t ih =>
    rw [register, mem_types_insert, ih, List.mem_append, List.mem_singleton, or_comm, or_assoc]
  | found _ present build ih =>
    rw [getOrRegister_of_present present]
    exact ih
  | built _ absent build _ ih ihbuilding =>
    rw [getOrRegister_of_absent absent, List.mem_append, List.mem_append, List.mem_singleton,
      ← or_assoc, ← ih, ← or_assoc, ← ihbuilding]
    split
    · rename_i hmem
      constructor
      · exact .inl
      · rintro (h | rfl)
        · exact h
        · exact hmem
    · rw [mem_types_insert]
      exact Or.comm

/-! ### What is registered -/

/-- In a consistent registry the keys of the name table are the names borne. -/
theorem Consistent.mem_names_iff (h : r.Consistent) {name : String} :
    name ∈ keys r.byName ↔ r.Bears name := by
  rw [← isSome_lookup?_iff]
  constructor
  · intro hsome
    obtain ⟨U, hU⟩ := Option.isSome_iff_exists.mp hsome
    exact ⟨U, (h.settled name).held U hU⟩
  · exact (h.settled name).borne

/-- What a name leads to is registered now, and bears the name. -/
theorem Consistent.of_getByName? (h : r.Consistent) {name : String}
    (hfound : r.getByName? name = some t) :
    t.name = name ∧ ∃ U, lookup? r.byName name = some U ∧ r.get? U = some t := by
  obtain ⟨U, hU, ht⟩ := Option.bind_eq_some_iff.mp hfound
  obtain ⟨u, hu, hname⟩ := (h.settled name).held U hU
  rw [ht] at hu
  cases hu
  exact ⟨hname, U, hU, ht⟩

theorem Consistent.isSome_getByName? (h : r.Consistent) {name : String} :
    (r.getByName? name).isSome ↔ r.Bears name := by
  constructor
  · intro hsome
    obtain ⟨u, hu⟩ := Option.isSome_iff_exists.mp hsome
    obtain ⟨hname, U, -, hget⟩ := h.of_getByName? hu
    exact ⟨U, u, hget, hname⟩
  · intro hbears
    obtain ⟨U, hU⟩ := Option.isSome_iff_exists.mp ((h.settled name).borne hbears)
    obtain ⟨u, hu, -⟩ := (h.settled name).held U hU
    rw [getByName?, hU, Option.bind_some, hu]
    rfl

theorem typeNames_perm (r : Registry) : r.typeNames.Perm (keys r.byName) := List.mergeSort_perm _ _

theorem pairwise_typeNames (r : Registry) : r.typeNames.Pairwise (· ≤ ·) := by
  have htrans : ∀ a b c : String, notAfter a b → notAfter b c → notAfter a c := by
    intro a b c hab hbc
    exact decide_eq_true (String.le_trans (of_decide_eq_true hab) (of_decide_eq_true hbc))
  have htotal : ∀ a b : String, notAfter a b || notAfter b a := by
    intro a b
    rw [Bool.or_eq_true]
    exact (String.le_total a b).imp decide_eq_true decide_eq_true
  exact (List.pairwise_mergeSort htrans htotal _).imp of_decide_eq_true

/-- From an empty registry on, the size counts the distinct types ever registered. -/
theorem Run.size_eq {ever : List TypeTag} (h : Run {} ever r) : r.size = ever.dedup.length := by
  -- two lists without duplicates and with the same elements are as long as each other
  have hperm : (keys r.byType).Perm ever.dedup := by
    rw [List.perm_ext_iff_of_nodup (h.consistent consistent_empty).types_nodup ever.nodup_dedup]
    intro U
    rw [h.mem_types_iff, List.mem_dedup]
    exact ⟨fun hU => hU.resolve_left List.not_mem_nil, .inr⟩
  rw [size, ← hperm.length_eq, keys, List.length_map]

end Registry

/-- **The names in the table are those that registered types bear.**  In every state that calls of
register and get-or-register can lead an empty registry to, a name is a key of the name table
exactly when some registered type bears it; looking it up succeeds for those names alone, and leads
to a definition that is registered now and bears the name.  The type names are those names in order,
each once, and the size is the number of distinct types ever registered. -/
theorem nameTable_exact {ever : List TypeTag} {r : Registry} (h : Registry.Run {} ever r) :
    (∀ name, name ∈ Registry.keys r.byName ↔ r.Bears name) ∧
    (∀ name, (r.getByName? name).isSome ↔ r.Bears name) ∧
    (∀ name t, r.getByName? name = some t → t.name = name ∧
      ∃ T, Registry.lookup? r.byName name = some T ∧ r.get? T = some t) ∧
    (r.typeNames.Pairwise (· ≤ ·) ∧ r.typeNames.Nodup ∧
      ∀ name, name ∈ r.typeNames ↔ r.Bears name) ∧
    r.size = ever.dedup.length := by
  have hconsistent := h.consistent Registry.consistent_empty
  refine ⟨fun name => hconsistent.mem_names_iff, fun name => hconsistent.isSome_getByName?,
    fun name t => hconsistent.of_getByName?, ⟨r.pairwise_typeNames, ?_, ?_⟩, h.size_eq⟩
  · exact r.typeNames_perm.nodup_iff.mpr hconsistent.names_nodup
  · intro name
    rw [r.typeNames_perm.mem_iff]
    exact hconsistent.mem_names_iff

/-- Two types share a name.  While a third one of that name is built the holder is renamed, so that
the name goes back to the first, and on to the third when that is registered. -/
theorem nameTable_exact_handover :
    ∃ middle r : Registry,
      Registry.Run {} [.record "Alpha", .record "Beta", .record "Beta"] middle ∧
      middle.size = 2 ∧ (middle.getByName? "Foo").map (·.type) = some (.record "Alpha") ∧
      Registry.Run {} [.record "Alpha", .record "Beta", .record "Beta", .record "Gamma"] r ∧
      r.size = 3 ∧ "Foo" ∈ r.typeNames ∧ "Bar" ∈ r.typeNames ∧
      (r.getByName? "Foo").map (·.type) = some (.record "Gamma") := by
  let alpha : TypeDef := .named (.record "Alpha") "Foo"
  let beta : TypeDef := .named (.record "Beta") "Foo"
  let renamed : TypeDef := .named (.record "Beta") "Bar"
  let shared : Registry := (Registry.register {} alpha).register beta
  have hshared : Registry.Run {} [.record "Alpha", .record "Beta"] shared :=
    ((Registry.Run.done {}).registered alpha).registered beta
  have hrenamed : Registry.Run shared [.record "Beta"] (shared.register renamed) :=
    (Registry.Run.done shared).registered renamed
  have hmiddle := hshared.trans hrenamed
  have habsent : shared.get? (.record "Gamma") = none := by decide
  have hrun := hshared.built habsent
    (fun r => (r.register renamed, .named (.record "Gamma") "Foo")) hrenamed
  obtain ⟨-, -, -, -, hmiddleSize⟩ := nameTable_exact hmiddle
  obtain ⟨-, hfound, -, ⟨-, -, hnames⟩, hsize⟩ := nameTable_exact hrun
  refine ⟨_, _, hmiddle, hmiddleSize.trans (by decide), by decide, hrun,
    hsize.trans (by decide), ?_, ?_, by decide⟩
  · exact (hnames _).mpr ((hfound _).mp (by decide))
  · exact (hnames _).mpr ((hfound _).mp (by decide))

end LateBinding
