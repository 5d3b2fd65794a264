import LateBinding.Proofs.Recency

/-!
# Handover: what one registration changes

A name leads to a definition through two tables, so that a definition stored for a type could change
what any name leads to that stands for the type.  In a registry whose tables agree there are two
such names at most: the one the type is registered under now, and the one it had before.

* `Registry.getByName?_insert_self`, `Registry.getByName?_insert_of_not_held` — the new name leads
  to the new definition, and a name that the type does not hold leads where it led;
* `Registry.HeldApart`, `Registry.Registers` — a name held by another type, and all that storing a
  definition changes;
* `Registry.registers_insert` — a registration changes that and nothing else;
* `registration_confined` — the calls that register, in every state that calls can lead to.
-/

namespace LateBinding

namespace Registry

variable {r : Registry} {T : TypeTag} {t : TypeDef} {name : String}

/-! ### The names of one type -/

/-- The new name is entered last, and leads to the new definition. -/
theorem getByName?_insert_self (r : Registry) (T : TypeTag) (t : TypeDef) :
    (r.insert T t).getByName? t.name = some t := by
  have hholder : lookup? (r.insert T t).byName t.name = some T := lookup?_update_self _ _ _
  rw [getByName?, hholder, Option.bind_some, get?_insert, if_pos rfl]

/-- What is stored for a type matters to no name that stands for another type. -/
theorem getByName?_insert_of_not_held (hname : t.name ≠ name)
    (hheld : lookup? r.byName name ≠ some T) :
    (r.insert T t).getByName? name = r.getByName? name := by
  rw [getByName?, getByName?, lookup?_insert_of_not_held hname hheld]
  cases hholder : lookup? r.byName name with
  | none => rfl
  | some U =>
    have hne : U ≠ T := by
      rintro rfl
      exact hheld hholder
    show (r.insert T t).get? U = r.get? U
    rw [get?_insert, if_neg hne]

/-! ### One registration -/

/-- A name stands for another type than `T`. -/
def HeldApart (r : Registry) (T : TypeTag) (name : String) : Prop :=
  ∃ U, U ≠ T ∧ lookup? r.byName name = some U

/-- What storing the definition `t` for the type `T` changes.  The type and the new name lead to `t`
afterwards.  Every other type and every other name leads where it led, except for the name of an
earlier definition: it does so if it stands for another type, and is given up if not. -/
structure Registers (r : Registry) (T : TypeTag) (t : TypeDef) (r' : Registry) : Prop where
  get?_self : r'.get? T = some t
  get?_ne : ∀ U, U ≠ T → r'.get? U = r.get? U
  getByName?_self : r'.getByName? t.name = some t
  getByName?_ne : ∀ name, name ≠ t.name →
    (∀ previous, r.get? T = some previous → name ≠ previous.name) →
    r'.getByName? name = r.getByName? name
  getByName?_heldApart : ∀ previous, r.get? T = some previous → previous.name ≠ t.name →
    r.HeldApart T previous.name → r'.getByName? previous.name = r.getByName? previous.name
  /-- A name that is given up leads to another type that bears it, and to nothing if there is
  none. -/
  getByName?_givenUp : ∀ previous, r.get? T = some previous → previous.name ≠ t.name →
    (∀ u, r'.getByName? previous.name = some u →
      u.name = previous.name ∧ ∃ U, U ≠ T ∧ r'.get? U = some u) ∧
    (r'.getByName? previous.name = none ↔
      ∀ U u, U ≠ T → r'.get? U = some u → u.name ≠ previous.name)

/-- A name that the new definition does not bear is borne by other types only. -/
theorem bears_insert_iff (hname : t.name ≠ name) :
    (r.insert T t).Bears name ↔
      ∃ U u, U ≠ T ∧ (r.insert T t).get? U = some u ∧ u.name = name := by
  constructor
  · rintro ⟨U, u, hu, hborne⟩
    refine ⟨U, u, ?_, hu, hborne⟩
    rintro rfl
    rw [get?_insert, if_pos rfl] at hu
    cases hu
    exact hname hborne
  · rintro ⟨U, u, -, hu, hborne⟩
    exact ⟨U, u, hu, hborne⟩

/-- **In a consistent registry a registration changes that and nothing else.** -/
theorem registers_insert (h : r.Consistent) (T : TypeTag) (t : TypeDef) :
    r.Registers T t (r.insert T t) where
  get?_self := (get?_insert r T t T).trans (if_pos rfl)
  get?_ne U hU := (get?_insert r T t U).trans (if_neg hU)
  getByName?_self := getByName?_insert_self r T t
  getByName?_ne := by
    intro name hname hprevious
    refine getByName?_insert_of_not_held (Ne.symm hname) fun hheld => ?_
    -- who holds a name is registered under it
    obtain ⟨u, hu, hborne⟩ := (h.settled name).held T hheld
    exact hprevious u hu hborne.symm
  getByName?_heldApart := by
    rintro previous - hname ⟨U, hU, hheld⟩
    refine getByName?_insert_of_not_held (Ne.symm hname) ?_
    rw [hheld]
    exact fun hT => hU (Option.some.inj hT)
  getByName?_givenUp := by
    intro previous _ hname
    -- the tables agree afterwards as well, and `T` bears another name by then
    have hafter : (r.insert T t).Consistent := consistent_insert h T t
    have hbears := bears_insert_iff (r := r) (T := T) (Ne.symm hname)
    constructor
    · intro u hu
      obtain ⟨hborne, U, -, hget⟩ := hafter.of_getByName? hu
      refine ⟨hborne, U, ?_, hget⟩
      rintro rfl
      rw [get?_insert, if_pos rfl] at hget
      cases hget
      exact hname hborne.symm
    · rw [← Option.not_isSome_iff_eq_none, hafter.isSome_getByName?, hbears]
      constructor
      · intro hnone U u hU hu hborne
        exact hnone ⟨U, u, hU, hu, hborne⟩
      · rintro hnone ⟨U, u, hU, hu, hborne⟩
        exact hnone U u hU hu hborne

/-- To get or register a type that is not there registers what is built, unless the type was
registered meanwhile. -/
theorem getOrRegister_cases (absent : r.get? T = none) (build : Registry → Registry × TypeDef) :
    (∀ existing, (build r).1.get? T = some existing →
      r.getOrRegister T build = ((build r).1, existing)) ∧
    ((build r).1.get? T = none →
      r.getOrRegister T build = ((build r).1.insert T (build r).2, (build r).2)) := by
  constructor
  · intro existing hexisting
    simp only [getOrRegister, absent, hexisting]
  · intro hlacking
    simp only [getOrRegister, absent, hlacking]

end Registry

/-- **One registration changes only what it must.**  In every state that calls can lead to, to
register a definition changes what its type and its name lead to, and the name that the type had
before, if it stood for the type: this one passes to another type that bears it.  To get or register
a type that is not there does the same, in the state in which its definition has been built, and
nothing if the type is registered by then; of a type that is there it changes nothing. -/
theorem registration_confined {ever : List TypeTag} {r : Registry} (h : Registry.Run {} ever r) :
    (∀ t, r.Registers t.type t (r.register t)) ∧
    (∀ T build inner, r.get? T = none → Registry.Run r inner (build r).1 →
      (∀ existing, (build r).1.get? T = some existing →
        r.getOrRegister T build = ((build r).1, existing)) ∧
      ((build r).1.get? T = none → (r.getOrRegister T build).2 = (build r).2 ∧
        (build r).1.Registers T (build r).2 (r.getOrRegister T build).1)) ∧
    (∀ T t build, r.get? T = some t → r.getOrRegister T build = (r, t)) := by
  have hconsistent := h.consistent Registry.consistent_empty
  refine ⟨fun t => Registry.registers_insert hconsistent t.type t, ?_, ?_⟩
  · intro T build inner habsent hbuilding
    obtain ⟨hmeanwhile, hlacking⟩ := Registry.getOrRegister_cases habsent build
    refine ⟨hmeanwhile, fun hnone => ?_⟩
    rw [hlacking hnone]
    exact ⟨rfl, Registry.registers_insert (hbuilding.consistent hconsistent) T (build r).2⟩
  · intro T t build hpresent
    simp only [Registry.getOrRegister, hpresent]

/-- Two types share a name, which the second holds.  When that one is renamed the name passes to the
first; and when a third type is asked for, and built under the name, it takes the name over, while
the first stays registered under it. -/
theorem registration_confined_handover :
    ∃ r r' r'' : Registry, Registry.Run {} [.record "Alpha", .record "Beta"] r ∧
      r.get? (.record "Gamma") = none ∧
      r' = r.register (.named (.record "Beta") "Bar") ∧
      ¬ r.HeldApart (.record "Beta") "Foo" ∧
      (r'.getByName? "Foo").map (·.type) = some (.record "Alpha") ∧
      (r'.getByName? "Bar").map (·.type) = some (.record "Beta") ∧
      r'' = (r'.getOrRegister (.record "Gamma") fun r => (r, .named (.record "Gamma") "Foo")).1 ∧
      (r''.getByName? "Foo").map (·.type) = some (.record "Gamma") ∧
      r''.get? (.record "Alpha") = r.get? (.record "Alpha") := by
  have hshared : Registry.Run {} [.record "Alpha", .record "Beta"] _ :=
    ((Registry.Run.done {}).registered (.named (.record "Alpha") "Foo")).registered
      (.named (.record "Beta") "Foo")
  have hrenamed := hshared.registered (.named (.record "Beta") "Bar")
  obtain ⟨hregister, -, -⟩ := registration_confined hshared
  obtain ⟨-, hask, -⟩ := registration_confined hrenamed
  have hbar := hregister (.named (.record "Beta") "Bar")
  have hgamma := ((hask (.record "Gamma") (fun r => (r, .named (.record "Gamma") "Foo")) [] rfl
    (.done _)).2 rfl).2
  refine ⟨_, _, _, hshared, rfl, rfl, ?_, ?_, ?_, rfl, ?_, ?_⟩
  · rintro ⟨U, hU, hheld⟩
    cases hheld
    exact hU rfl
  · -- the name passes to another type, and there is one only
    obtain ⟨hpasses, hnone⟩ := hbar.getByName?_givenUp (.named (.record "Beta") "Foo") rfl
      (by decide)
    obtain ⟨u, hu⟩ := Option.ne_none_iff_exists'.mp fun hlost =>
      hnone.mp hlost (.record "Alpha") (.named (.record "Alpha") "Foo") (by decide) rfl rfl
    obtain ⟨-, U, hU, hget⟩ := hpasses u hu
    have hentry : (U, u) ∈ [(TypeTag.record "Alpha", TypeDef.named (.record "Alpha") "Foo"),
        (TypeTag.record "Beta", TypeDef.named (.record "Beta") "Bar")] :=
      Registry.mem_of_lookup? hget
    refine (congrArg (Option.map (·.type)) hu).trans ?_
    rcases List.mem_cons.mp hentry with heq | hlast
    · cases heq
      rfl
    · cases List.mem_singleton.mp hlast
      exact absurd rfl hU
  · exact congrArg (Option.map (·.type)) hbar.getByName?_self
  · exact congrArg (Option.map (·.type)) hgamma.getByName?_self
  · exact (hgamma.get?_ne _ (by decide)).trans (hbar.get?_ne _ (by decide))

end LateBinding
