import LateBinding.Proofs.NameTable

/-!
# Recency: what was registered last

A registry keeps no record of the order of its registrations.  This file keeps one beside it, and
asks what the two tables still know of it: of a type everything, of a name only as long as the type
that was registered under it last goes on bearing it.

* `Registry.Log`, `Registry.Insertions` — what has been stored, the latest first, and a sequence of
  registrations with its log;
* `Registry.Recorded`, `Registry.Recorded.insertions` — sequences of calls, which may be nested,
  with what they store; each comes to a sequence of registrations;
* `Registry.Insertions.get?_eq_lookup?` — **a type is registered as what was stored for it last**;
* `Registry.inForce`, `Registry.latestNamed?` — the registrations in force, and the latest of them
  under a name;
* `Registry.Insertions.holder` — the type registered last under a name holds it as long as it bears
  it;
* `typeLookup_latest`, `nameLookup_latest` — what looking up a type, and a name, comes to.
-/

namespace LateBinding

namespace Registry

/-! ### Registrations -/

/-- The definitions stored so far, each with the type it is stored for, the latest first. -/
abbrev Log := List (TypeTag × TypeDef)

/-- A sequence of registrations, with its log.  The tables have no order of their own: it may be any
at any time. -/
inductive Insertions (r : Registry) : Log → Registry → Prop
  | start : Insertions r [] r
  | reordered {log : Log} {r' r'' : Registry} (before : Insertions r log r')
      (types : r'.byType.Perm r''.byType) (names : r'.byName.Perm r''.byName) : Insertions r log r''
  | stored {log : Log} {r' : Registry} (before : Insertions r log r') (T : TypeTag) (t : TypeDef) :
      Insertions r ((T, t) :: log) (r'.insert T t)

/-- A sequence of calls, with the log of what they store.  A definition that is asked for and not
there is built, and the building may call the registry in turn; what is built in the end is dropped
if the type was registered meanwhile. -/
inductive Recorded : Registry → Log → Registry → Prop
  | start (r : Registry) : Recorded r [] r
  | reordered {r r' r'' : Registry} {log : Log} (before : Recorded r log r')
      (types : r'.byType.Perm r''.byType) (names : r'.byName.Perm r''.byName) : Recorded r log r''
  | registered {r r' : Registry} {log : Log} (before : Recorded r log r') (t : TypeDef) :
      Recorded r ((t.type, t) :: log) (r'.register t)
  | found {r r' : Registry} {log : Log} (before : Recorded r log r') {T : TypeTag} {t : TypeDef}
      (present : r'.get? T = some t) (build : Registry → Registry × TypeDef) :
      Recorded r log (r'.getOrRegister T build).1
  | overtaken {r r' : Registry} {log inner : Log} (before : Recorded r log r') {T : TypeTag}
      {t : TypeDef} (absent : r'.get? T = none) (build : Registry → Registry × TypeDef)
      (building : Recorded r' inner (build r').1) (meanwhile : (build r').1.get? T = some t) :
      Recorded r (inner ++ log) (r'.getOrRegister T build).1
  | built {r r' : Registry} {log inner : Log} (before : Recorded r log r') {T : TypeTag}
      (absent : r'.get? T = none) (build : Registry → Registry × TypeDef)
      (building : Recorded r' inner (build r').1) (lacking : (build r').1.get? T = none) :
      Recorded r ((T, (build r').2) :: (inner ++ log)) (r'.getOrRegister T build).1

variable {r r' r'' : Registry} {log later : Log}

theorem Insertions.trans (h : Insertions r log r') (h' : Insertions r' later r'') :
    Insertions r (later ++ log) r'' := by
  induction h' with
  | start => exact h
  | reordered _ types names ih => exact ih.reordered types names
  | stored _ T t ih => exact ih.stored T t

theorem mem_types_of_get? {T : TypeTag} {t : TypeDef} (h : r.get? T = some t) :
    T ∈ keys r.byType := isSome_lookup?_iff.mp (Option.isSome_iff_exists.mpr ⟨t, h⟩)

theorem not_mem_types_of_get? {T : TypeTag} (h : r.get? T = none) : T ∉ keys r.byType := by
  intro hmem
  have hsome : (r.get? T).isSome := isSome_lookup?_iff.mpr hmem
  rw [h] at hsome
  cases hsome

/-- **Whatever the calls, they come to registrations.** -/
theorem Recorded.insertions (h : Recorded r log r') : Insertions r log r' := by
  induction h with
  | start r => exact .start
  | reordered _ types names ih => exact ih.reordered types names
  | registered _ t ih => exact ih.stored t.type t
  | found _ present build ih =>
    rw [getOrRegister_of_present present]
    exact ih
  | overtaken _ absent build _ meanwhile ih ihbuilding =>
    rw [getOrRegister_of_absent absent, if_pos (mem_types_of_get? meanwhile)]
    exact ih.trans ihbuilding
  | built _ absent build _ lacking ih ihbuilding =>
    rw [getOrRegister_of_absent absent, if_neg (not_mem_types_of_get? lacking)]
    exact (ih.trans ihbuilding).stored _ _

theorem Insertions.consistent (h : Insertions {} log r) : r.Consistent := by
  induction h with
  | start => exact consistent_empty
  | reordered _ types names ih => exact consistent_of_perm ih types names
  | stored _ T t ih => exact consistent_insert ih T t

/-- **A type is registered as what was stored for it last.** -/
theorem Insertions.get?_eq_lookup? (h : Insertions {} log r) (T : TypeTag) :
    r.get? T = lookup? log T := by
  induction h with
  | start => rfl
  | reordered before types names ih =>
    rw [get?_eq_of_perm before.consistent.types_nodup types T, ih]
  | stored _ U u ih =>
    rw [get?_insert, lookup?_cons, ih]
    by_cases hT : T = U
    · rw [if_pos hT, if_pos hT.symm]
    · rw [if_neg hT, if_neg (Ne.symm hT)]

/-! ### Calls that ask for a type -/

/-- A registration is in force at once, and matters to no other type. -/
theorem get?_register (r : Registry) (t : TypeDef) :
    (r.register t).get? t.type = some t ∧
      ∀ U, U ≠ t.type → (r.register t).get? U = r.get? U := by
  refine ⟨?_, fun U hU => ?_⟩
  · rw [register, get?_insert, if_pos rfl]
  · rw [register, get?_insert, if_neg hU]

/-- What is given for a type is what is registered for it afterwards. -/
theorem get?_getOrRegister (r : Registry) (T : TypeTag) (build : Registry → Registry × TypeDef) :
    (r.getOrRegister T build).1.get? T = some (r.getOrRegister T build).2 := by
  simp only [getOrRegister]
  cases hpresent : r.get? T with
  | some t => exact hpresent
  | none =>
    simp only
    cases hmeanwhile : (build r).1.get? T with
    | some existing => exact hmeanwhile
    | none => exact (get?_insert _ T _ T).trans (if_pos rfl)

/-! ### Registrations in force -/

/-- The registrations in force, the latest first: of each type the last one. -/
def inForce : Log → Log
  | [] => []
  | (T, t) :: log => (T, t) :: erase (inForce log) T

/-- Whether a definition is stored under a name. -/
def under (name : String) (stored : TypeTag × TypeDef) : Bool := stored.2.name = name

/-- The latest registration in force under a name. -/
def latestNamed? (log : Log) (name : String) : Option TypeDef :=
  ((inForce log).find? (under name)).map (·.2)

theorem mem_inForce_cons {e : TypeTag × TypeDef} {T : TypeTag} {t : TypeDef} :
    e ∈ inForce ((T, t) :: log) ↔ e = (T, t) ∨ e ∈ inForce log ∧ e.1 ≠ T := by
  rw [inForce, List.mem_cons, erase, List.mem_filter, decide_eq_true_iff]

theorem mem_inForce_iff {T : TypeTag} {t : TypeDef} :
    (T, t) ∈ inForce log ↔ lookup? log T = some t := by
  induction log with
  | nil => exact ⟨nofun, nofun⟩
  | cons head log ih =>
    obtain ⟨U, u⟩ := head
    rw [mem_inForce_cons, lookup?_cons, ih]
    by_cases hU : U = T
    · subst hU
      rw [if_pos rfl]
      constructor
      · rintro (h | ⟨-, h⟩)
        · cases h
          rfl
        · exact absurd rfl h
      · intro h
        cases h
        exact .inl rfl
    · rw [if_neg hU]
      constructor
      · rintro (h | ⟨h, -⟩)
        · cases h
          exact absurd rfl hU
        · exact h
      · intro h
        exact .inr ⟨h, Ne.symm hU⟩

/-- What is in force under a name, and was stored under it last, is the latest in force. -/
theorem find?_inForce {name : String} {e : TypeTag × TypeDef}
    (hlast : log.find? (under name) = some e) (he : e ∈ inForce log) :
    (inForce log).find? (under name) = some e := by
  induction log with
  | nil => cases hlast
  | cons head log ih =>
    obtain ⟨U, u⟩ := head
    rw [inForce, List.find?_cons]
    rw [List.find?_cons] at hlast
    cases hu : under name (U, u) with
    | true =>
      rw [hu] at hlast
      exact hlast
    | false =>
      rw [hu] at hlast
      have hrest := mem_inForce_cons.mp he
      have hne : e ≠ (U, u) := by
        rintro rfl
        rw [List.find?_some hlast] at hu
        cases hu
      obtain ⟨hmem, hU⟩ := hrest.resolve_left hne
      -- nothing under the name stands before `e`, with or without the entries of `U`
      obtain ⟨hname, before, after, hsplit, hbefore⟩ :=
        List.find?_eq_some_iff_append.mp (ih hlast hmem)
      refine List.find?_eq_some_iff_append.mpr
        ⟨hname, erase before U, erase after U, ?_, ?_⟩
      · rw [hsplit, erase, List.filter_append, List.filter_cons, if_pos (decide_eq_true hU)]
        rfl
      · intro x hx
        exact hbefore x (List.mem_of_mem_filter hx)

/-! ### Who holds a name -/

/-- A registration under another name takes a name from none but its own type. -/
theorem lookup?_insert_of_not_held {T : TypeTag} {t : TypeDef} {name : String}
    (hname : t.name ≠ name) (hheld : lookup? r.byName name ≠ some T) :
    lookup? (r.insert T t).byName name = lookup? r.byName name := by
  have hreleased : lookup? (r.released T t).byName name = lookup? r.byName name := by
    rw [released]
    cases r.get? T with
    | none => rfl
    | some previous =>
      by_cases hsame : previous.name = t.name
      · simp only [hsame, ne_eq, not_true_eq_false, if_false]
        rfl
      simp only [ne_eq, hsame, not_false_eq_true, if_true]
      by_cases hgiven : name = previous.name
      · rw [hgiven, lookup?_releaseName_self]
        rw [hgiven] at hheld
        exact if_neg hheld
      · exact lookup?_releaseName_ne hgiven T
  rw [← hreleased]
  exact lookup?_update_ne (Ne.symm hname) T _

/-- **The type registered last under a name holds it, as long as it bears it.** -/
theorem Insertions.holder (h : Insertions {} log r) {name : String} {T : TypeTag} {t : TypeDef}
    (hlast : log.find? (under name) = some (T, t)) (hforce : (T, t) ∈ inForce log) :
    lookup? r.byName name = some T := by
  induction h with
  | start => cases hlast
  | reordered before types names ih =>
    rw [← ih hlast hforce]
    exact (lookup?_perm before.consistent.names_nodup names name).symm
  | stored before U u ih =>
    rw [List.find?_cons] at hlast
    by_cases hu : u.name = name
    · -- the name has just been taken
      have hunder : under name (U, u) = true := decide_eq_true hu
      rw [hunder] at hlast
      cases hlast
      rw [← hu]
      exact lookup?_update_self _ _ _
    · have hunder : under name (U, u) = false := decide_eq_false hu
      rw [hunder] at hlast
      have hne : (T, t) ≠ (U, u) := by
        intro heq
        rw [← heq, List.find?_some hlast] at hunder
        cases hunder
      obtain ⟨hmem, hTU⟩ := (mem_inForce_cons.mp hforce).resolve_left hne
      have hheld := ih hlast hmem
      rw [lookup?_insert_of_not_held hu, hheld]
      rw [hheld]
      intro hU
      exact hTU (Option.some.inj hU)

/-! ### What a name leads to -/

/-- The type registered last under a name still bears it. -/
def Kept (log : Log) (name : String) : Prop :=
  ∀ e, log.find? (under name) = some e → e ∈ inForce log

/-- No two types bear a name. -/
def Sole (log : Log) (name : String) : Prop :=
  ∀ e ∈ inForce log, ∀ e' ∈ inForce log, under name e → under name e' → e = e'

namespace Insertions

variable (h : Insertions {} log r) {name : String}

include h

/-- A name leads to a registration in force under it. -/
theorem of_getByName? {t : TypeDef} (hfound : r.getByName? name = some t) :
    ∃ T, (T, t) ∈ inForce log ∧ under name (T, t) ∧ lookup? r.byName name = some T := by
  obtain ⟨hname, T, hheld, hget⟩ := h.consistent.of_getByName? hfound
  rw [h.get?_eq_lookup?] at hget
  exact ⟨T, mem_inForce_iff.mpr hget, decide_eq_true hname, hheld⟩

/-- It leads to one if there is one. -/
theorem isSome_getByName?_iff :
    (r.getByName? name).isSome ↔ ∃ e ∈ inForce log, under name e := by
  rw [h.consistent.isSome_getByName?]
  constructor
  · rintro ⟨T, t, hget, hname⟩
    rw [h.get?_eq_lookup?] at hget
    exact ⟨(T, t), mem_inForce_iff.mpr hget, decide_eq_true hname⟩
  · rintro ⟨⟨T, t⟩, hmem, hname⟩
    refine ⟨T, t, ?_, of_decide_eq_true hname⟩
    rw [h.get?_eq_lookup?]
    exact mem_inForce_iff.mp hmem

theorem isSome_getByName?_iff_latest :
    (r.getByName? name).isSome ↔ (latestNamed? log name).isSome := by
  rw [h.isSome_getByName?_iff, latestNamed?, Option.isSome_map, List.find?_isSome]

/-- **It leads to the latest one, if that type was registered under the name last.** -/
theorem getByName?_of_kept (hkept : Kept log name) :
    r.getByName? name = latestNamed? log name := by
  cases hlast : log.find? (under name) with
  | none =>
    have hunder : ∀ e ∈ inForce log, ¬ under name e := by
      rintro ⟨T, t⟩ he
      exact List.find?_eq_none.mp hlast _ (mem_of_lookup? (mem_inForce_iff.mp he))
    have hnone : r.getByName? name = none := by
      refine Option.not_isSome_iff_eq_none.mp fun hsome => ?_
      obtain ⟨e, he, hname⟩ := h.isSome_getByName?_iff.mp hsome
      exact hunder e he hname
    rw [hnone, latestNamed?, List.find?_eq_none.mpr hunder]
    rfl
  | some e =>
    obtain ⟨T, t⟩ := e
    have hforce := hkept _ hlast
    rw [getByName?, h.holder hlast hforce, latestNamed?, find?_inForce hlast hforce]
    show r.get? T = some t
    rw [h.get?_eq_lookup?]
    exact mem_inForce_iff.mp hforce

/-- So it does if there is no other one. -/
theorem getByName?_of_sole (hsole : Sole log name) :
    r.getByName? name = latestNamed? log name := by
  cases hfound : r.getByName? name with
  | none =>
    refine (Option.not_isSome_iff_eq_none.mp fun hsome => ?_).symm
    have := h.isSome_getByName?_iff_latest.mpr hsome
    rw [hfound] at this
    cases this
  | some t =>
    obtain ⟨T, hmem, hname, -⟩ := h.of_getByName? hfound
    obtain ⟨e, he⟩ := Option.isSome_iff_exists.mp
      (List.find?_isSome.mpr ⟨(T, t), hmem, hname⟩)
    have hsame : e = (T, t) :=
      hsole e (List.mem_of_find?_eq_some he) (T, t) hmem (List.find?_some he) hname
    rw [latestNamed?, he, hsame]
    rfl

end Insertions

end Registry

open Registry

/-! ### Types and names -/

/-- **A type is registered as what was stored for it last.**  A registration replaces an earlier one
and is left alone by those of other types; to get or register a type that is there stores nothing,
and in any case gives what is registered for the type afterwards.  What is registered for a type is
a definition of that type, if those who build definitions build them of the types they are asked
for. -/
theorem typeLookup_latest {log : Log} {r : Registry} (h : Recorded {} log r) :
    (∀ T, r.get? T = lookup? log T) ∧
    (∀ t, (r.register t).get? t.type = some t ∧
      ∀ U, U ≠ t.type → (r.register t).get? U = r.get? U) ∧
    (∀ T t build, r.get? T = some t → r.getOrRegister T build = (r, t)) ∧
    (∀ T build, (r.getOrRegister T build).1.get? T = some (r.getOrRegister T build).2) ∧
    ((∀ stored ∈ log, stored.2.type = stored.1) → ∀ T t, r.get? T = some t → t.type = T) := by
  have hget := h.insertions.get?_eq_lookup?
  refine ⟨hget, r.get?_register, ?_, r.get?_getOrRegister, ?_⟩
  · intro T t build hpresent
    simp only [getOrRegister, hpresent]
  · intro hbuilt T t hfound
    rw [hget] at hfound
    exact hbuilt (T, t) (mem_of_lookup? hfound)

/-- Two types share a name, and one of them is asked for again, to no effect, and then registered
under another name: both are found as they were stored last. -/
theorem typeLookup_latest_renamed :
    ∃ log r, Recorded {} log r ∧ log.length = 3 ∧
      (r.get? (.record "Beta")).map (·.name) = some "Bar" ∧
      (r.get? (.record "Alpha")).map (·.name) = some "Foo" ∧
      ∀ T t, r.get? T = some t → t.type = T := by
  let alpha : TypeDef := .named (.record "Alpha") "Foo"
  let beta : TypeDef := .named (.record "Beta") "Foo"
  let renamed : TypeDef := .named (.record "Beta") "Bar"
  have hshared := ((Recorded.start {}).registered alpha).registered beta
  have hbeta : (((Registry.register {} alpha).register beta).get? (.record "Beta")) = some beta :=
    (Registry.get?_insert _ _ _ _).trans (if_pos rfl)
  have hasked := hshared.found hbeta fun r => (r, renamed)
  have hrenamed := hasked.registered renamed
  obtain ⟨hget, -, -, -, htype⟩ := typeLookup_latest hrenamed
  refine ⟨_, _, hrenamed, rfl, ?_, ?_, htype ?_⟩
  · rw [hget]
    rfl
  · rw [hget]
    rfl
  · intro stored hstored
    simp only [List.mem_cons, List.not_mem_nil, or_false] at hstored
    rcases hstored with rfl | rfl | rfl <;> rfl

/-- Nobody looks at what is built: for `Alpha` a definition of `Beta` is given out, and found ever
after. -/
theorem typeLookup_foreign :
    ¬ ∀ log r T t, Recorded {} log r → r.get? T = some t → t.type = T := by
  intro h
  let beta : TypeDef := .named (.record "Beta") "Beta"
  have hrun := (Recorded.start {}).built (T := .record "Alpha") rfl (fun r => (r, beta))
    (.start {}) rfl
  have hforeign := h _ _ (.record "Alpha") beta hrun rfl
  exact absurd hforeign (by decide)

/-- **A name leads to the latest registration in force under it, as long as the tables can tell.**
It leads to some registration in force under it whenever there is one.  It is the latest one if the
type registered last under the name still bears it, or if no two types bear it. -/
theorem nameLookup_latest {log : Log} {r : Registry} (h : Recorded {} log r) (name : String) :
    ((r.getByName? name).isSome ↔ (latestNamed? log name).isSome) ∧
    (∀ t, r.getByName? name = some t → ∃ T, (T, t) ∈ inForce log ∧ t.name = name) ∧
    (Kept log name ∨ Sole log name → r.getByName? name = latestNamed? log name) := by
  have hstored := h.insertions
  refine ⟨hstored.isSome_getByName?_iff_latest, ?_, ?_⟩
  · intro t hfound
    obtain ⟨T, hmem, hname, -⟩ := hstored.of_getByName? hfound
    exact ⟨T, hmem, of_decide_eq_true hname⟩
  · rintro (hkept | hsole)
    · exact hstored.getByName?_of_kept hkept
    · exact hstored.getByName?_of_sole hsole

/-- Of two types that share a name the second holds it.  When it is registered under another name,
the first one is left, and has the name again. -/
theorem nameLookup_latest_handover :
    ∃ log r, Recorded {} log r ∧ Sole log "Foo" ∧
      (r.getByName? "Foo").map (·.type) = some (.record "Alpha") ∧
      Kept log "Bar" ∧ (r.getByName? "Bar").map (·.type) = some (.record "Beta") := by
  let alpha : TypeDef := .named (.record "Alpha") "Foo"
  let beta : TypeDef := .named (.record "Beta") "Foo"
  let renamed : TypeDef := .named (.record "Beta") "Bar"
  have hrun := (((Recorded.start {}).registered alpha).registered beta).registered renamed
  have hsole : Sole [(.record "Beta", renamed), (.record "Beta", beta), (.record "Alpha", alpha)]
      "Foo" := by
    have hforce : ∀ e ∈ inForce
        [(.record "Beta", renamed), (.record "Beta", beta), (.record "Alpha", alpha)],
        under "Foo" e → e = (.record "Alpha", alpha) := by
      intro e he hname
      rcases List.mem_cons.mp he with rfl | he
      · exact absurd hname (by decide)
      · exact List.mem_singleton.mp he
    intro e he e' he' hname hname'
    rw [hforce e he hname, hforce e' he' hname']
  have hkept : Kept [(.record "Beta", renamed), (.record "Beta", beta), (.record "Alpha", alpha)]
      "Bar" := by
    intro e he
    cases he
    exact List.mem_cons_self
  refine ⟨_, _, hrun, hsole, ?_, hkept, ?_⟩
  · rw [(nameLookup_latest hrun "Foo").2.2 (.inr hsole)]
    rfl
  · rw [(nameLookup_latest hrun "Bar").2.2 (.inl hkept)]
    rfl

/-- From three types on the tables cannot tell.  The name goes back to `Alpha`, although `Beta`,
which bears it as well, was registered under it later. -/
theorem nameLookup_outdated :
    ¬ ∀ log r name, Recorded {} log r → r.getByName? name = latestNamed? log name := by
  intro h
  let alpha : TypeDef := .named (.record "Alpha") "Foo"
  let beta : TypeDef := .named (.record "Beta") "Foo"
  let gamma : TypeDef := .named (.record "Gamma") "Foo"
  let renamed : TypeDef := .named (.record "Gamma") "Bar"
  have hrun := ((((Recorded.start {}).registered alpha).registered beta).registered
    gamma).registered renamed
  have hlatest := congrArg (Option.map (·.type)) (h _ _ "Foo" hrun)
  exact absurd hlatest (by decide)

end LateBinding
