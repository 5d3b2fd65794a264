import Mathlib.Data.List.Nodup
import LateBinding.Registry

/-!
# Tables

A registry looks its types up in one table and their names in another, and the variables of a pool
stand in a table as well.  A key is looked up by its first entry; an update replaces that entry.

* `Registry.mem_of_lookup?`, `Registry.lookup?_of_mem` — a table without duplicate keys is looked up
  by its entries, in whatever order they stand (`Registry.lookup?_perm`);
* `Registry.lookup?_update_self`, `Registry.lookup?_update_ne`, `Registry.lookup?_erase_self`,
  `Registry.lookup?_erase_ne` — what updating and erasing change;
* `Registry.nodup_keys_update`, `Registry.nodup_keys_erase` — neither makes a key stand twice;
* `Registry.lookup?_enter_self`, `Registry.lookup?_enter_ne`, `Registry.nodup_keys_enter` — the same
  of an entry that takes its place in the order of the keys;
* `Registry.mapEntries` — every entry replaced, and what becomes of look-ups and updates then.
-/

namespace LateBinding

namespace Registry

variable {κ α β : Type}

/-- The keys of a table. -/
def keys (table : List (κ × α)) : List κ := table.map (·.1)

theorem mem_keys_of_mem {table : List (κ × α)} {key : κ} {entry : α} (h : (key, entry) ∈ table) :
    key ∈ keys table := List.mem_map.mpr ⟨_, h, rfl⟩

/-- Replace every entry, and leave the keys. -/
def mapEntries (f : α → β) (table : List (κ × α)) : List (κ × β) :=
  table.map fun entry => (entry.1, f entry.2)

theorem mapEntries_congr {f g : α → β} {table : List (κ × α)}
    (h : ∀ key entry, (key, entry) ∈ table → f entry = g entry) :
    mapEntries f table = mapEntries g table :=
  List.map_congr_left fun entry hentry => congrArg (Prod.mk entry.1) (h entry.1 entry.2 hentry)

variable [DecidableEq κ]

theorem lookup?_cons (k key : κ) (entry : α) (table : List (κ × α)) :
    lookup? ((k, entry) :: table) key = if k = key then some entry else lookup? table key := by
  simp only [lookup?, List.find?_cons]
  by_cases hk : k = key
  · simp only [hk, decide_true, if_true, Option.map_some]
  · simp only [hk, decide_false, if_false]

theorem mem_of_lookup? {table : List (κ × α)} {key : κ} {entry : α}
    (h : lookup? table key = some entry) : (key, entry) ∈ table := by
  obtain ⟨⟨k, e⟩, hfind, rfl⟩ := Option.map_eq_some_iff.mp h
  have hkey := List.find?_some hfind
  obtain rfl : k = key := of_decide_eq_true hkey
  exact List.mem_of_find?_eq_some hfind

/-- **A table without duplicate keys is looked up by its entries.** -/
theorem lookup?_of_mem {table : List (κ × α)} {key : κ} {entry : α} (hkeys : (keys table).Nodup)
    (h : (key, entry) ∈ table) : lookup? table key = some entry := by
  induction table with
  | nil => cases h
  | cons head table ih =>
    obtain ⟨k, e⟩ := head
    obtain ⟨hfresh, hrest⟩ := List.nodup_cons.mp hkeys
    rw [lookup?_cons]
    rcases List.mem_cons.mp h with hhead | htail
    · cases hhead
      exact if_pos rfl
    · -- the key stands further on, so it is not that of the first entry
      have hne : k ≠ key := by
        rintro rfl
        exact hfresh (mem_keys_of_mem htail)
      rw [if_neg hne]
      exact ih hrest htail

theorem isSome_lookup?_iff {table : List (κ × α)} {key : κ} :
    (lookup? table key).isSome ↔ key ∈ keys table := by
  rw [Option.isSome_iff_exists]
  constructor
  · rintro ⟨entry, h⟩
    exact mem_keys_of_mem (mem_of_lookup? h)
  · intro h
    induction table with
    | nil => cases h
    | cons head table ih =>
      obtain ⟨k, e⟩ := head
      rw [lookup?_cons]
      by_cases hk : k = key
      · exact ⟨e, if_pos hk⟩
      · rw [if_neg hk]
        exact ih ((List.mem_cons.mp h).resolve_left fun heq => hk heq.symm)

/-- Tables with the same entries are looked up alike. -/
theorem lookup?_perm {table table' : List (κ × α)} (hkeys : (keys table).Nodup)
    (hperm : table.Perm table') (key : κ) : lookup? table key = lookup? table' key := by
  have hkeys' : (keys table').Nodup := (hperm.map _).nodup_iff.mp hkeys
  refine Option.ext fun entry => ?_
  constructor
  · intro h
    exact lookup?_of_mem hkeys' (hperm.mem_iff.mp (mem_of_lookup? h))
  · intro h
    exact lookup?_of_mem hkeys (hperm.mem_iff.mpr (mem_of_lookup? h))

theorem lookup?_update_self (key : κ) (entry : α) (table : List (κ × α)) :
    lookup? (update key entry table) key = some entry := by
  induction table with
  | nil => rw [update, lookup?_cons, if_pos rfl]
  | cons head table ih =>
    obtain ⟨k, e⟩ := head
    rw [update]
    by_cases hk : k = key
    · rw [if_pos hk, lookup?_cons, if_pos rfl]
    · rw [if_neg hk, lookup?_cons, if_neg hk, ih]

theorem lookup?_update_ne {key key' : κ} (hne : key' ≠ key) (entry : α) (table : List (κ × α)) :
    lookup? (update key entry table) key' = lookup? table key' := by
  induction table with
  | nil => rw [update, lookup?_cons, if_neg hne.symm]
  | cons head table ih =>
    obtain ⟨k, e⟩ := head
    rw [update]
    by_cases hk : k = key
    · rw [if_pos hk, lookup?_cons, lookup?_cons, hk, if_neg hne.symm, if_neg hne.symm]
    · rw [if_neg hk, lookup?_cons, lookup?_cons, ih]

theorem lookup?_erase_self (table : List (κ × α)) (key : κ) :
    lookup? (erase table key) key = none := by
  refine Option.eq_none_iff_forall_ne_some.mpr fun entry h => ?_
  have hkept := (List.mem_filter.mp (mem_of_lookup? h)).2
  exact absurd rfl (of_decide_eq_true hkept)

theorem lookup?_erase_ne {key key' : κ} (hne : key' ≠ key) (table : List (κ × α)) :
    lookup? (erase table key) key' = lookup? table key' := by
  rw [lookup?, lookup?, erase, List.find?_filter]
  congr 2
  funext entry
  by_cases hk : entry.1 = key'
  · simp only [hk, ne_eq, hne, not_false_eq_true, decide_true, and_self]
  · simp only [hk, decide_false, Bool.false_eq_true, and_false]

theorem mem_keys_update {key key' : κ} {entry : α} {table : List (κ × α)} :
    key' ∈ keys (update key entry table) ↔ key' = key ∨ key' ∈ keys table := by
  rw [← isSome_lookup?_iff, ← isSome_lookup?_iff]
  by_cases hk : key' = key
  · rw [hk, lookup?_update_self]
    exact ⟨fun _ => .inl rfl, fun _ => rfl⟩
  · rw [lookup?_update_ne hk]
    exact ⟨.inr, fun h => h.resolve_left hk⟩

theorem nodup_keys_update {key : κ} {entry : α} {table : List (κ × α)} (h : (keys table).Nodup) :
    (keys (update key entry table)).Nodup := by
  induction table with
  | nil => exact List.nodup_singleton key
  | cons head table ih =>
    obtain ⟨k, e⟩ := head
    obtain ⟨hfresh, hrest⟩ := List.nodup_cons.mp h
    rw [update]
    by_cases hk : k = key
    · rw [if_pos hk, ← hk]
      exact h
    · rw [if_neg hk]
      refine List.nodup_cons.mpr ⟨?_, ih hrest⟩
      intro hmem
      exact (mem_keys_update.mp hmem).elim hk hfresh

theorem nodup_keys_erase {key : κ} {table : List (κ × α)} (h : (keys table).Nodup) :
    (keys (erase table key)).Nodup := h.sublist (List.filter_sublist.map _)

/-! ### Entries in the order of their keys -/

section Enter

variable {before : κ → κ → Bool} {key key' : κ}

omit [DecidableEq κ] in
theorem perm_place (before : κ → κ → Bool) (key : κ) (entry : α) (table : List (κ × α)) :
    (place before key entry table).Perm ((key, entry) :: table) := by
  induction table with
  | nil => exact List.Perm.refl _
  | cons head table ih =>
    obtain ⟨k, e⟩ := head
    rw [place]
    split
    · exact (ih.cons _).trans (List.Perm.swap _ _ _)
    · exact List.Perm.refl _

theorem mem_keys_erase {table : List (κ × α)} :
    key' ∈ keys (erase table key) ↔ key' ≠ key ∧ key' ∈ keys table := by
  rw [← isSome_lookup?_iff, ← isSome_lookup?_iff]
  by_cases hk : key' = key
  · rw [hk, lookup?_erase_self]
    exact ⟨nofun, fun h => absurd rfl h.1⟩
  · rw [lookup?_erase_ne hk]
    exact ⟨fun h => ⟨hk, h⟩, And.right⟩

/-- Where an entry is placed does not matter to a look-up of a key that was not there. -/
theorem lookup?_place_self {entry : α} {table : List (κ × α)} (h : key ∉ keys table) :
    lookup? (place before key entry table) key = some entry := by
  induction table with
  | nil => rw [place, lookup?_cons, if_pos rfl]
  | cons head table ih =>
    obtain ⟨k, e⟩ := head
    have hk : k ≠ key := fun heq => h (List.mem_cons.mpr (.inl heq.symm))
    rw [place]
    split
    · rw [lookup?_cons, if_neg hk]
      exact ih fun hmem => h (List.mem_cons_of_mem _ hmem)
    · rw [lookup?_cons, if_pos rfl]

theorem lookup?_place_ne (hne : key' ≠ key) (entry : α) (table : List (κ × α)) :
    lookup? (place before key entry table) key' = lookup? table key' := by
  induction table with
  | nil => rw [place, lookup?_cons, if_neg hne.symm]
  | cons head table ih =>
    obtain ⟨k, e⟩ := head
    rw [place]
    split
    · rw [lookup?_cons, lookup?_cons, ih]
    · rw [lookup?_cons, if_neg hne.symm]

theorem lookup?_enter_self (before : κ → κ → Bool) (key : κ) (entry : α) (table : List (κ × α)) :
    lookup? (enter before key entry table) key = some entry :=
  lookup?_place_self fun h => (mem_keys_erase.mp h).1 rfl

theorem lookup?_enter_ne (hne : key' ≠ key) (entry : α) (table : List (κ × α)) :
    lookup? (enter before key entry table) key' = lookup? table key' := by
  rw [enter, lookup?_place_ne hne, lookup?_erase_ne hne]

theorem mem_keys_enter {entry : α} {table : List (κ × α)} :
    key' ∈ keys (enter before key entry table) ↔ key' = key ∨ key' ∈ keys table := by
  rw [enter, keys, ((perm_place before key entry _).map _).mem_iff, List.map_cons, List.mem_cons]
  by_cases hk : key' = key
  · exact ⟨fun _ => .inl hk, fun _ => .inl hk⟩
  · refine or_congr_right ?_
    exact mem_keys_erase.trans (and_iff_right hk)

theorem nodup_keys_enter {entry : α} {table : List (κ × α)} (h : (keys table).Nodup) :
    (keys (enter before key entry table)).Nodup := by
  rw [enter, keys, ((perm_place before key entry _).map _).nodup_iff, List.map_cons]
  exact List.nodup_cons.mpr ⟨fun hmem => (mem_keys_erase.mp hmem).1 rfl, nodup_keys_erase h⟩

end Enter

/-! ### Entries replaced -/

variable (f : α → β)

theorem lookup?_mapEntries (table : List (κ × α)) (key : κ) :
    lookup? (mapEntries f table) key = (lookup? table key).map f := by
  induction table with
  | nil => rfl
  | cons head table ih =>
    obtain ⟨k, e⟩ := head
    show lookup? ((k, f e) :: mapEntries f table) key = _
    rw [lookup?_cons, lookup?_cons, ih]
    by_cases hk : k = key
    · rw [if_pos hk, if_pos hk, Option.map_some]
    · rw [if_neg hk, if_neg hk]

theorem mapEntries_update (key : κ) (entry : α) (table : List (κ × α)) :
    mapEntries f (update key entry table) = update key (f entry) (mapEntries f table) := by
  induction table with
  | nil => rfl
  | cons head table ih =>
    obtain ⟨k, e⟩ := head
    show _ = update key (f entry) ((k, f e) :: mapEntries f table)
    rw [update, update, ← ih]
    by_cases hk : k = key
    · rw [if_pos hk, if_pos hk]
      rfl
    · rw [if_neg hk, if_neg hk]
      rfl

theorem mapEntries_erase (table : List (κ × α)) (key : κ) :
    mapEntries f (erase table key) = erase (mapEntries f table) key := by
  rw [mapEntries, erase, erase, mapEntries, List.filter_map]
  rfl

variable {f}

/-- What is said of one key is an update. -/
theorem mapEntries_eq_update {g : α → β} {table : List (κ × α)} {key : κ} {entry : α}
    (hkeys : (keys table).Nodup) (hself : lookup? table key = some entry)
    (hothers : ∀ k e, (k, e) ∈ table → k ≠ key → f e = g e) :
    mapEntries f table = update key (f entry) (mapEntries g table) := by
  induction table with
  | nil => cases hself
  | cons head table ih =>
    obtain ⟨k, e⟩ := head
    obtain ⟨hfresh, hrest⟩ := List.nodup_cons.mp hkeys
    show (k, f e) :: mapEntries f table = update key (f entry) ((k, g e) :: mapEntries g table)
    rw [lookup?_cons] at hself
    rw [update]
    by_cases hk : k = key
    · -- the entry of the key; the other entries have other keys
      rw [if_pos hk] at hself
      cases hself
      rw [if_pos hk, hk]
      refine congrArg _ (mapEntries_congr fun k' e' hmem => ?_)
      refine hothers k' e' (List.mem_cons_of_mem _ hmem) fun hk' => hfresh ?_
      rw [hk, ← hk']
      exact mem_keys_of_mem hmem
    · rw [if_neg hk] at hself
      rw [if_neg hk, hothers k e List.mem_cons_self hk]
      refine congrArg _ (ih hrest hself fun k' e' hmem => ?_)
      exact hothers k' e' (List.mem_cons_of_mem _ hmem)

end Registry

end LateBinding
