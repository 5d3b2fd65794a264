import LateBinding.Proofs.Direct
import LateBinding.Samples.Scripts

/-!
# Containers: what a call with write-back leaves in them

A call with write-back enters the member with a frame of converted arguments.  When it ends well,
the positions of the parameters passed by reference hold what the body left in the frame there, and
all others what they held before; when it does not, the container is as it was.

* `length_copyBack`, `getElem?_copyBack_kept`, `getElem?_copyBack_written` — copying back, position
  by position;
* `Method.refersAt`, `Method.getElem?_copyBack` — the positions that are written back, and the law
  for the parameters of a method;
* `Method.IsEntry` — the entries of a method as its typed entry, receiver and result wrapped;
* `Method.WritesBack`, `Method.writesBack_callByRef`, `Method.writesBack_invokeByRef` — the law of a
  way to call, and the ways that obey it;
* `writeBack_exact` — the delegates of all levels, and the reflective call.
-/

namespace LateBinding

/-! ### Copying back, position by position -/

theorem length_copyBack (ps : List Parameter) :
    ∀ frame args : List Value, (Method.copyBack ps frame args).length = args.length := by
  induction ps with
  | nil => intro frame args; rfl
  | cons p ps ih =>
    intro frame args
    cases frame with
    | nil => rfl
    | cons v frame =>
      rw [Method.copyBack, ih, length_set_if]

/-- A position that no parameter passed by reference stands at keeps its value. -/
theorem getElem?_copyBack_kept {formals : List Formal} :
    ∀ {i k : Nat} (names : List String) (frame args : List Value),
      (∀ (j : Nat) (p : Formal), k = i + j → formals[j]? = some p → p.byRef = false) →
        (Method.copyBack (Parameter.listFrom i names formals) frame args)[k]? = args[k]? := by
  induction formals with
  | nil => intro i k names frame args _; rfl
  | cons p ps ih =>
    intro i k names frame args hkept
    cases frame with
    | nil => rw [copyBack_nil]
    | cons v frame =>
      have htail : ∀ (j : Nat) (q : Formal), k = i + 1 + j → ps[j]? = some q → q.byRef = false := by
        intro j q hk hq
        exact hkept (j + 1) q (by omega) hq
      rw [copyBack_listFrom_cons, ih names.tail frame _ htail]
      cases hp : p.byRef with
      | false => rfl
      | true =>
        -- the first parameter is written back, so it stands at another position
        have hne : i ≠ k := by
          intro hik
          have := hkept 0 p (by omega) rfl
          rw [hp] at this
          cases this
        exact List.getElem?_set_ne hne

/-- The position of a parameter passed by reference gets the value of the frame. -/
theorem getElem?_copyBack_written {formals : List Formal} :
    ∀ {i j : Nat} (names : List String) {frame args : List Value} {p : Formal} {v : Value},
      formals[j]? = some p → p.byRef = true → frame[j]? = some v → i + j < args.length →
        (Method.copyBack (Parameter.listFrom i names formals) frame args)[i + j]? = some v := by
  induction formals with
  | nil => intro i j names frame args p v hp; cases hp
  | cons q qs ih =>
    intro i j names frame args p v hp href hv hlen
    cases frame with
    | nil => cases hv
    | cons w frame =>
      rw [copyBack_listFrom_cons]
      cases j with
      | zero =>
        cases hp
        cases hv
        -- it is written first, and the parameters that follow stand behind it
        rw [if_pos href, getElem?_copyBack_kept names.tail frame _ (by intro j _ hk; omega)]
        exact List.getElem?_set_self hlen
      | succ j =>
        have hset := length_set_if q.byRef args i w
        have hnext := ih (i := i + 1) names.tail hp href hv (by rw [hset]; omega)
        rw [Nat.add_right_comm] at hnext
        exact hnext

namespace Method

variable {declaring : TypeTag} (m : Method declaring)

/-- Whether a position of the container is that of a parameter passed by reference. -/
def refersAt (k : Nat) : Bool := (m.formals[k]?).any Formal.byRef

theorem refersAt_of_getElem? {k : Nat} {p : Formal} (hp : m.formals[k]? = some p) :
    m.refersAt k = p.byRef := by
  rw [refersAt, hp]
  rfl

theorem lt_arity_of_refersAt {k : Nat} (h : m.refersAt k = true) : k < m.arity := by
  refine Nat.lt_of_not_le fun hk => ?_
  rw [refersAt, List.getElem?_eq_none hk] at h
  cases h

/-- **Copying back replaces the positions of the parameters passed by reference, and no others.** -/
theorem getElem?_copyBack {frame args : List Value} (hframe : frame.length = m.arity)
    (hargs : m.arity ≤ args.length) (k : Nat) :
    (copyBack m.parameters frame args)[k]? = if m.refersAt k then frame[k]? else args[k]? := by
  rw [parameters, Parameter.listOf]
  cases hk : m.refersAt k with
  | true =>
    have hlt : k < m.arity := m.lt_arity_of_refersAt hk
    have hp : m.formals[k]? = some m.formals[k] := List.getElem?_eq_getElem hlt
    have hv : frame[k]? = some frame[k] := List.getElem?_eq_getElem (hframe ▸ hlt)
    have href : m.formals[k].byRef = true := (m.refersAt_of_getElem? hp).symm.trans hk
    have hroom : 0 + k < args.length := by omega
    have hwritten := getElem?_copyBack_written m.names hp href hv hroom
    rw [Nat.zero_add] at hwritten
    rw [if_pos rfl, hv, hwritten]
  | false =>
    rw [if_neg Bool.false_ne_true]
    refine getElem?_copyBack_kept m.names frame args ?_
    intro j p hj hp
    obtain rfl : k = j := by omega
    exact (m.refersAt_of_getElem? hp).symm.trans hk

/-! ### The entries of a method -/

/-- An entry that is the typed entry of the method, with receiver and result wrapped. -/
def IsEntry {σ ρ : Type} (a : Packing σ declaring.Carrier) (box : m.result.Carrier → ρ)
    (entry : Entry σ ρ) : Prop :=
  ∀ s frame, entry s frame =
    match a.unpack s with
    | .error e => .stopped s frame.values (.error e)
    | .ok x => ((m.framed x frame).mapResult box).mapReceiver a.pack

theorem isEntry_framed : m.IsEntry (.bare _) id m.framed := by
  intro s frame
  simp only [Packing.bare, FrameReply.mapResult, FrameReply.mapReceiver, Reply.mapResult,
    Reply.mapReceiver]
  obtain ⟨⟨s', outcome⟩, left⟩ := m.framed s frame
  cases outcome <;> rfl

theorem isEntry_widened : m.IsEntry (.bare _) (Value.ofCarrier m.result) m.widened := by
  intro s frame
  rfl

theorem isEntry_erased : m.IsEntry (.tagged declaring) (Value.ofCarrier m.result) m.erased := by
  intro i frame
  by_cases hi : i.1 = declaring
  · obtain ⟨T, s⟩ := i
    obtain rfl : T = declaring := hi
    simp only [m.erased_mk, Packing.tagged, dif_pos]
    rfl
  · simp only [m.erased_foreign hi, Packing.tagged, dif_neg hi]

/-! ### The law of write-back -/

/-- A way to call with write-back that changes exactly the positions passed by reference, and only
when the call ends well.  The law is for containers of which `Room` holds. -/
structure WritesBack {ε σ ρ : Type} (a : Packing σ declaring.Carrier) (box : m.result.Carrier → ρ)
    (Room : List Value → Prop) (call : σ → List Value → FrameReply ε σ ρ) : Prop where
  /-- The body was entered once, with the coerced arguments as its frame.  Where a parameter is
  passed by reference the container holds what the body left there, elsewhere what it held. -/
  of_ok : ∀ {s args r}, Room args → (call s args).outcome = .ok r →
    ∃ x values, s = a.pack x ∧ Coerced m.formals args values ∧
      (m.framed x (m.frame args values)).outcome.map box = .ok r ∧
      (call s args).receiver = a.pack (m.framed x (m.frame args values)).receiver ∧
      (m.framed x (m.frame args values)).args.length = m.arity ∧
      (call s args).args.length = args.length ∧
      ∀ k, (call s args).args[k]? =
        if m.refersAt k then (m.framed x (m.frame args values)).args[k]? else args[k]?
  /-- A call ends well if the arguments convert and the body ends well. -/
  ends_well : ∀ {x args values r}, Room args → Coerced m.formals args values →
    (m.framed x (m.frame args values)).outcome = .ok r →
    (call (a.pack x) args).outcome = .ok (box r)
  /-- A call that fails, in the body or before it, leaves the whole container as it was. -/
  of_fault : ∀ {s args fault}, Room args → (call s args).outcome = .error fault →
    (call s args).args = args

/-- In a container with room for all parameters writing back is never out of range. -/
theorem callByRef_of_room {σ ρ : Type} (entry : Entry σ ρ) (s : σ) {args : List Value}
    (hroom : m.arity ≤ args.length) :
    callByRef (m.slots .byRef) entry s args =
      match marshal args (m.slots .byRef) with
      | .error fault => .stopped s args fault
      | .ok values =>
        let reply := entry s (m.frame args values)
        match reply.outcome with
        | .error _ => (reply.toReply.mapError .ofBind).beside args
        | .ok _ => (reply.toReply.mapError .ofBind).beside
            (copyBack m.parameters reply.args args) := by
  simp only [callByRef]
  cases marshal args (m.slots .byRef) with
  | error fault => rfl
  | ok values =>
    have hlen : 0 + m.formals.length ≤ args.length := by
      rw [Nat.zero_add]
      exact hroom
    have hback := fun left => writeBack_ofFormals m.names left hlen
    rw [← slots] at hback
    simp only [m.frame_eq .byRef, hback]
    rfl

variable {m}

section Delegate

variable {σ ρ : Type} {a : Packing σ declaring.Carrier} {box : m.result.Carrier → ρ}
  {entry : Entry σ ρ} (hentry : m.IsEntry a box entry) {s : σ} {args : List Value}
  (hroom : m.arity ≤ args.length)

include hentry hroom

/-- A call that ends well has found a frame and reached the receiver. -/
theorem ready_of_callByRef {r : ρ}
    (h : (callByRef (m.slots .byRef) entry s args).outcome = .ok r) :
    ∃ values x, marshal args (m.slots .byRef) = .ok values ∧ a.unpack s = .ok x := by
  rw [m.callByRef_of_room entry s hroom] at h
  cases hvalues : marshal args (m.slots .byRef) with
  | error fault => rw [hvalues] at h; cases h
  | ok values =>
    cases hs : a.unpack s with
    | error e => simp only [hvalues, hentry s, hs] at h; cases h
    | ok x => exact ⟨values, x, rfl, rfl⟩

/-- With both at hand the body is entered, and its frame copied back if it ends well. -/
theorem callByRef_of_ready {values : List Value} {x : declaring.Carrier}
    (hvalues : marshal args (m.slots .byRef) = .ok values) (hs : a.unpack s = .ok x) :
    callByRef (m.slots .byRef) entry s args =
      let reply := m.framed x (m.frame args values)
      match reply.outcome with
      | .error fault => ⟨⟨a.pack reply.receiver, .error (fault.map .ofBind)⟩, args⟩
      | .ok result => ⟨⟨a.pack reply.receiver, .ok (box result)⟩,
          copyBack m.parameters reply.args args⟩ := by
  rw [m.callByRef_of_room entry s hroom]
  simp only [hvalues, hentry s, hs, FrameReply.mapReceiver, FrameReply.mapResult,
    Reply.mapReceiver, Reply.mapResult]
  cases (m.framed x (m.frame args values)).outcome <;> rfl

end Delegate

/-- **Calls of delegates with write-back obey the law.** -/
theorem writesBack_callByRef {σ ρ : Type} {a : Packing σ declaring.Carrier} (ha : a.Faithful)
    {box : m.result.Carrier → ρ} {entry : Entry σ ρ} (hentry : m.IsEntry a box entry) :
    m.WritesBack a box (fun args => m.arity ≤ args.length) (callByRef (m.slots .byRef) entry) where
  of_ok := by
    intro s args r hroom h
    obtain ⟨values, x, hvalues, hs⟩ := ready_of_callByRef hentry hroom h
    have hcoerced : Coerced m.formals args values := coerced_of_marshal hvalues
    have hleft : (m.framed x (m.frame args values)).args.length = m.arity :=
      (m.framed_keepsLength x _).trans hcoerced.1
    rw [callByRef_of_ready hentry hroom hvalues hs] at h ⊢
    cases hbody : (m.framed x (m.frame args values)).outcome with
    | error fault => simp only [hbody] at h; cases h
    | ok result =>
      simp only [hbody] at h ⊢
      cases h
      exact ⟨x, values, (ha s x).mp hs, hcoerced, congrArg (Except.map box) hbody, rfl, hleft,
        length_copyBack m.parameters _ args, m.getElem?_copyBack hleft hroom⟩
  ends_well := by
    intro x args values r hroom hcoerced hbody
    have hvalues : marshal args (m.slots .byRef) = .ok values := marshal_of_coerced .byRef hcoerced
    rw [callByRef_of_ready hentry hroom hvalues ((ha _ x).mpr rfl)]
    simp only [hbody]
  of_fault := by
    intro s args fault hroom h
    rw [m.callByRef_of_room entry s hroom] at h ⊢
    cases hvalues : marshal args (m.slots .byRef) with
    | error fault => rfl
    | ok values =>
      simp only [hvalues] at h ⊢
      cases hbody : (entry s (m.frame args values)).outcome with
      | error fault => rfl
      | ok result =>
        simp only [hbody, Reply.beside, Reply.mapError] at h
        cases h

/-- **The reflective call with write-back obeys it on containers of the right length.** -/
theorem writesBack_invokeByRef (m : Method declaring) :
    m.WritesBack (.tagged declaring) (Value.ofCarrier m.result)
      (fun args => args.length = m.arity) m.invokeByRef where
  of_ok := by
    intro i args r hlen h
    by_cases hi : i.1 = declaring
    · obtain ⟨T, s⟩ := i
      obtain rfl : T = declaring := hi
      have heq := m.invokeByRef_eq_callByRef s hlen
      have hcall : (callByRef (m.slots .byRef) m.erased ⟨T, s⟩ args).outcome = .ok r := by
        rw [← heq]
        simp only [FrameReply.mapError, Reply.mapError, h]
        rfl
      have hlaw := (writesBack_callByRef (Packing.tagged_faithful T) m.isEntry_erased).of_ok
        (Nat.le_of_eq hlen.symm) hcall
      rw [← heq] at hlaw
      exact hlaw
    · rw [invokeByRef, m.prepare_foreign hi] at h
      cases h
  ends_well := by
    intro x args values r hlen hcoerced hbody
    have hcall := (writesBack_callByRef (Packing.tagged_faithful declaring)
      m.isEntry_erased).ends_well (Nat.le_of_eq hlen.symm) hcoerced hbody
    have heq := m.invokeByRef_eq_callByRef x hlen
    simp only [Packing.tagged, ← heq, FrameReply.mapError, Reply.mapError] at hcall
    show (m.invokeByRef ⟨declaring, x⟩ args).outcome = .ok (Value.ofCarrier m.result r)
    cases hreply : (m.invokeByRef ⟨declaring, x⟩ args).outcome with
    | error fault => rw [hreply] at hcall; cases hcall
    | ok result => rw [hreply] at hcall; cases hcall; rfl
  of_fault := by
    intro i args fault hlen h
    rw [invokeByRef] at h ⊢
    cases hconverted : m.prepare i args with
    | error e => rfl
    | ok converted =>
      simp only [hconverted] at h ⊢
      cases hbody : (m.erased i (m.frame args converted)).outcome with
      | error fault => rfl
      | ok result => simp only [hbody] at h; cases h

end Method

/-- **Write-back touches exactly the positions passed by reference, and only on success.**  Of a
container with room for all parameters each delegate with write-back replaces the positions of the
parameters passed by reference, by what the body left in the frame there, and keeps all others,
those behind the parameters too; a call that fails keeps the whole container.  It ends well if the
arguments convert and the body ends well.  The same holds of the reflective call on containers of
the right length. -/
theorem writeBack_exact {declaring : TypeTag} (m : Method declaring) :
    (∃ d, m.compileByRef = .ok d ∧
      m.WritesBack (.tagged declaring) (Value.ofCarrier m.result)
        (fun args => m.arity ≤ args.length) d.call) ∧
    (∃ d, m.compileByRefTyped declaring .any = .ok d ∧
      m.WritesBack (.bare _) (Value.ofCarrier m.result)
        (fun args => m.arity ≤ args.length) d.call) ∧
    (∃ d, m.compileByRefTyped declaring m.result = .ok d ∧
      m.WritesBack (.bare _) id (fun args => m.arity ≤ args.length) d.call) ∧
    m.WritesBack (.tagged declaring) (Value.ofCarrier m.result)
      (fun args => args.length = m.arity) m.invokeByRef := by
  obtain ⟨plan, hplan⟩ := m.exists_compileByRef
  obtain ⟨plan', hplan'⟩ := m.exists_compileByRefTyped_any
  obtain ⟨plan'', hplan''⟩ := m.exists_compileByRefTyped_result
  refine ⟨⟨_, hplan, ?_⟩, ⟨_, hplan', ?_⟩, ⟨_, hplan'', ?_⟩, m.writesBack_invokeByRef⟩
  · exact Method.writesBack_callByRef (Packing.tagged_faithful declaring) m.isEntry_erased
  · exact Method.writesBack_callByRef (Packing.bare_faithful _) m.isEntry_widened
  · exact Method.writesBack_callByRef (Packing.bare_faithful _) m.isEntry_framed

/-- A script with parameters of both kinds.  It moves the text, which is passed by value, to a
position that is passed by reference. -/
def mixedScript : Script where
  formals := [.reference (.int .i64), .byValue .text, .reference .any]
  actions := [.swap 1 2, .add 0 (.wrap .i64 1)]
  result := .unit
  returned := .value .null

/-- A number is widened and counted up in its place.  The literal, though widened to a text and then
moved, stays where it is and as it is, and so does the value behind the parameters. -/
theorem writeBack_exact_mixedScript :
    ∃ d, (mixedScript.method "Alpha" "mix" []).compileByRef = .ok d ∧
      ∃ r, d.call ⟨hostType "Alpha", Host.toFields {}⟩
          [.ofCarrier (.int .i32) (.wrap .i32 41), .ofCarrier .literal "a", .null,
            .ofCarrier .char 'z'] = r ∧
        r.args.length = 4 ∧
        r.args[0]? = some (.ofCarrier (.int .i64) (.wrap .i64 42)) ∧
        r.args[1]? = some (.ofCarrier .literal "a") ∧
        r.args[2]? = some (.text "a") ∧
        r.args[3]? = some (.ofCarrier .char 'z') := by
  obtain ⟨⟨d, hd, hlaw⟩, -⟩ := writeBack_exact (mixedScript.method "Alpha" "mix" [])
  have hroom : 3 ≤ [Value.ofCarrier (.int .i32) (.wrap .i32 41), .ofCarrier .literal "a", .null,
      .ofCarrier .char 'z'].length := by decide
  have hok : (d.call ⟨hostType "Alpha", Host.toFields {}⟩
      [.ofCarrier (.int .i32) (.wrap .i32 41), .ofCarrier .literal "a", .null,
        .ofCarrier .char 'z']).outcome = .ok .null := by
    cases hd
    rfl
  obtain ⟨x, values, -, -, -, -, -, hlength, hpositions⟩ := hlaw.of_ok hroom hok
  refine ⟨d, hd, _, rfl, hlength, ?_, hpositions 1, ?_, hpositions 3⟩
  · cases hd
    rfl
  · cases hd
    rfl

end LateBinding
