import LateBinding.Proofs.Anticipation
import LateBinding.Proofs.Exposure

/-!
# Growth: a type that gets more members

A lookup filters a list of members and wants one to remain.  When a type gets further members, or
has the old ones in another order, what was found before is found again or has become ambiguous: no
lookup ends in another member without a word.

* `TypeDef.Growth`, `TypeDef.Growth.grown` — further members and an order for all of them, and the
  definition that has them;
* `TypeDef.single_perm` — a choice does not depend on the order of the candidates;
* `TypeDef.Enlarged`, `TypeDef.enlarged_of_perm` — the outcome of a choice before and after
  candidates are added;
* `TypeDef.Growth.enlarged` — the same for whatever filter is applied to a member list;
* `growth_never_redirects` — the five lookups, and the late-bound calls that rest on two of them.
-/

namespace LateBinding

namespace TypeDef

variable (t : TypeDef)

/-! ### Types that grow -/

/-- Further members for a type, and an order in which it then has all of them. -/
structure Growth where
  constructors : List (Constructor t.type)
  methods : List (Method t.type)
  properties : List (Property t.type)
  moreConstructors : List (Constructor t.type) := []
  moreMethods : List (Method t.type) := []
  moreProperties : List (Property t.type) := []
  constructors_perm : constructors.Perm (t.constructors ++ moreConstructors)
  methods_perm : methods.Perm (t.methods ++ moreMethods)
  properties_perm : properties.Perm (t.properties ++ moreProperties)

variable {t}

/-- The grown type: of the same name, with all the members. -/
def Growth.grown (g : t.Growth) : TypeDef :=
  { t with constructors := g.constructors, methods := g.methods, properties := g.properties }

variable (t)

/-! ### Choices among more candidates -/

variable {α : Type} (member : String)

theorem single_eq_notFound_iff {candidates : List α} :
    t.single member candidates = .error (.memberNotFound t.name member) ↔ candidates = [] := by
  match candidates with
  | [] => exact iff_of_true rfl rfl
  | [x] => exact ⟨nofun, nofun⟩
  | x :: y :: rest => exact ⟨nofun, nofun⟩

/-- **A choice does not depend on the order of the candidates.** -/
theorem single_perm {candidates candidates' : List α} (h : candidates.Perm candidates') :
    t.single member candidates = t.single member candidates' := by
  match candidates with
  | [] => rw [List.nil_perm.mp h]
  | [x] => rw [List.singleton_perm.mp h]
  | x :: y :: rest =>
    have hlen := h.length_eq
    have htwo : 2 ≤ (x :: y :: rest).length := by simp
    rw [(t.single_eq_ambiguous_iff member).mpr ⟨rfl, htwo⟩,
      (t.single_eq_ambiguous_iff member).mpr ⟨hlen.symm, htwo⟩]

/-- The outcome of a choice before and after candidates were added. -/
structure Enlarged (before : Except BindError α) (added : List α) (after : Except BindError α) :
    Prop where
  /-- What was found is found, or is one of several now. -/
  of_ok : ∀ x, before = .ok x →
    added = [] ∧ after = .ok x ∨
      added ≠ [] ∧ after = .error (.ambiguousMatch t.name member (added.length + 1))
  /-- What was ambiguous remains so, with the added candidates counted in. -/
  of_ambiguous : ∀ n, before = .error (.ambiguousMatch t.name member n) →
    after = .error (.ambiguousMatch t.name member (n + added.length))
  /-- Where nothing was found the choice is among the added candidates alone. -/
  of_notFound : before = .error (.memberNotFound t.name member) → after = t.single member added
  /-- Nothing has changed if no candidate was added. -/
  unchanged : added = [] → after = before

theorem enlarged_of_perm {own added whole : List α} (h : whole.Perm (own ++ added)) :
    t.Enlarged member (t.single member own) added (t.single member whole) := by
  rw [t.single_perm member h]
  constructor
  · intro x hx
    obtain rfl := t.single_eq_ok_iff.mp hx
    cases added with
    | nil => exact .inl ⟨rfl, rfl⟩
    | cons y ys =>
      refine .inr ⟨List.cons_ne_nil y ys, (t.single_eq_ambiguous_iff member).mpr ⟨?_, ?_⟩⟩
      · rw [List.singleton_append, List.length_cons]
      · rw [List.length_cons]
        omega
  · intro n hn
    obtain ⟨hlen, htwo⟩ := (t.single_eq_ambiguous_iff member).mp hn
    refine (t.single_eq_ambiguous_iff member).mpr ⟨?_, Nat.le_add_right_of_le htwo⟩
    rw [List.length_append, hlen]
  · intro hnone
    rw [(t.single_eq_notFound_iff member).mp hnone, List.nil_append]
  · rintro rfl
    rw [List.append_nil]

variable {t}

/-- **Whatever is asked of the members, a grown list answers in this way.** -/
theorem Growth.enlarged (g : t.Growth) {own more whole : List α}
    (h : whole.Perm (own ++ more)) (p : α → Bool) :
    t.Enlarged member (t.single member (own.filter p)) (more.filter p)
      (g.grown.single member (whole.filter p)) := by
  have hfilter := h.filter p
  rw [List.filter_append] at hfilter
  have hname : g.grown.name = t.name := rfl
  rw [single_congr hname]
  exact t.enlarged_of_perm member hfilter

/-- The two ways in which a choice that had found a member can turn out. -/
theorem Enlarged.kept_or_ambiguous {before after : Except BindError α} {added : List α}
    (h : t.Enlarged member before added after) {x : α} (hx : before = .ok x) :
    after = .ok x ∨ ∃ n, 2 ≤ n ∧ after = .error (.ambiguousMatch t.name member n) := by
  obtain ⟨-, hkept⟩ | ⟨hadded, hambiguous⟩ := h.of_ok x hx
  · exact .inl hkept
  · have hpos := List.length_pos_of_ne_nil hadded
    exact .inr ⟨_, by omega, hambiguous⟩

end TypeDef

/-- **Further members, and another order, never redirect a lookup.**  A method asked for by a query,
a constructor asked for by its parameters, a property asked for by name, and the method and the
constructor that arguments resolve to: what was found is found again, unless an added member fits
the request as well, which makes it ambiguous; what was ambiguous remains so, with no fewer
candidates; and where nothing was found the answer depends on the added members alone.  If none of
these fits, as when the members are only reordered, the answer is the same.  So a late-bound call
runs what it ran before, or is refused. -/
theorem growth_never_redirects (t : TypeDef) (g : t.Growth) :
    (∀ q : MethodQuery, t.Enlarged q.name (t.findMethod q) (g.moreMethods.filter q.selects)
      (g.grown.findMethod q)) ∧
    (∀ signature, t.Enlarged "new" (t.findConstructor signature)
      (g.moreConstructors.filter fun c => c.formals = signature)
      (g.grown.findConstructor signature)) ∧
    (∀ name rules, t.Enlarged name (t.findProperty name rules)
      (g.moreProperties.filter (t.reachesProperty rules name))
      (g.grown.findProperty name rules)) ∧
    (∀ name args, t.Enlarged name (t.resolveMethod name args)
      (g.moreMethods.filter fun m => MethodQuery.reaches { name } m && accepts m.formals args)
      (g.grown.resolveMethod name args)) ∧
    (∀ args, t.Enlarged "new" (t.resolveConstructor args)
      (g.moreConstructors.filter fun c => accepts c.formals args)
      (g.grown.resolveConstructor args)) ∧
    (∀ name args m, t.resolveMethod name args = .ok m →
      (∀ i, g.grown.invokeMethod name i args = m.invoke i args) ∨
      ∃ n, 2 ≤ n ∧ ∀ i, g.grown.invokeMethod name i args =
        .refused i (.ambiguousMatch t.name name n)) ∧
    (∀ args c, t.resolveConstructor args = .ok c →
      g.grown.create args = c.invoke args ∨
      ∃ n, 2 ≤ n ∧ g.grown.create args = .error (.error (.ambiguousMatch t.name "new" n))) := by
  have hmethods := fun name args => g.enlarged name g.methods_perm fun m =>
    MethodQuery.reaches { name } m && accepts m.formals args
  have hconstructors := fun args => g.enlarged "new" g.constructors_perm fun c =>
    accepts c.formals args
  refine ⟨fun q => g.enlarged q.name g.methods_perm q.selects,
    fun signature => g.enlarged "new" g.constructors_perm fun c => c.formals = signature,
    fun name rules => g.enlarged name g.properties_perm (t.reachesProperty rules name),
    hmethods, hconstructors, ?_, ?_⟩
  · intro name args m hm
    obtain hkept | ⟨n, htwo, hambiguous⟩ := (hmethods name args).kept_or_ambiguous name hm
    · exact .inl fun i => TypeDef.invokeMethod_of_ok (t := g.grown) hkept i
    · exact .inr ⟨n, htwo, fun i => TypeDef.invokeMethod_of_error (t := g.grown) hambiguous i⟩
  · intro args c hc
    obtain hkept | ⟨n, htwo, hambiguous⟩ := (hconstructors args).kept_or_ambiguous "new" hc
    · exact .inl (TypeDef.create_of_ok (t := g.grown) hkept)
    · exact .inr ⟨n, htwo, TypeDef.create_of_error (t := g.grown) hambiguous⟩

/-- The subject with two more methods, which come first: one with the parameters of the first
`format`, and one that is named `renew`. -/
def Subject.crowded : Subject.definition.Growth where
  constructors := [Subject.constructor]
  methods := [Subject.methods[0], { Subject.methods[2] with name := "renew" }] ++ Subject.methods
  properties := [Subject.labelProperty]
  moreMethods := [Subject.methods[0], { Subject.methods[2] with name := "renew" }]
  constructors_perm := .refl _
  methods_perm := List.perm_append_comm
  properties_perm := .refl _

/-- The first `format` is no longer told from its double, while three texts are formatted as before.
`renew` is found among the added methods, and it alone. -/
theorem growth_never_redirects_crowded :
    Subject.crowded.grown.findMethod
        { name := "format", signature := some [.byValue .text, .byValue .text] } =
      .error (.ambiguousMatch "Sample" "format" 2) ∧
    (∀ i, Subject.crowded.grown.invokeMethod "format" i [.text "a", .text "b", .text "c"] =
      Subject.methods[1].invoke i [.text "a", .text "b", .text "c"]) ∧
    Subject.crowded.grown.findMethod { name := "renew" } =
      .ok { Subject.methods[2] with name := "renew" } := by
  obtain ⟨hqueries, -, -, hresolves, -⟩ :=
    growth_never_redirects Subject.definition Subject.crowded
  refine ⟨?_, ?_, ?_⟩
  · obtain ⟨hnone, -⟩ | ⟨-, hambiguous⟩ := (hqueries
      { name := "format", signature := some [.byValue .text, .byValue .text] }).of_ok
        Subject.methods[0] rfl
    · cases hnone
    · exact hambiguous
  · have hsame := (hresolves "format" [.text "a", .text "b", .text "c"]).unchanged rfl
    exact TypeDef.invokeMethod_of_ok (t := Subject.crowded.grown) hsame
  · exact (hqueries { name := "renew" }).of_notFound rfl

end LateBinding
