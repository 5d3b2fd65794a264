import LateBinding.Delegate

/-!
# Entry points: one method at several levels of typing

The entry points of a method differ in what they ask of the receiver and in how they hand the result
over.  On a receiver of the declaring type they are the same call.

* `Method.entry?_result`, `Method.entry?_any`, `Method.asked_of_entry?` — which entry is given to
  whom, and the same for `Method.inPlaceEntry?`;
* `Method.framed_keepsLength` — no body adds a value to the frame or takes one from it;
* `Method.erased_mk`, `Method.erased_foreign` — the entry for any receiver, on the two kinds of
  receivers;
* `callFramed_erased_mk`, `callFramed_widened` — calls through a frame at the three levels, and
  `callFramed_erased_foreign` for the receivers that only one level admits;
* `callByRef_erased_mk`, `callByRef_widened` — the same of calls that write back.
-/

namespace LateBinding

/-! ### Carrying replies over -/

namespace Reply

variable {ε ε' σ ρ ρ' : Type}

theorem mapError_mapResult (f : ε → ε') (g : ρ → ρ') (r : Reply ε σ ρ) :
    (r.mapResult g).mapError f = (r.mapError f).mapResult g := by
  obtain ⟨s, outcome⟩ := r
  cases outcome <;> rfl

end Reply

namespace FrameReply

variable {ε ε' σ ρ : Type}

/-- Carry the error over. -/
def mapError (f : ε → ε') (r : FrameReply ε σ ρ) : FrameReply ε' σ ρ :=
  ⟨r.toReply.mapError f, r.args⟩

/-- Boxing a result that is boxed already changes nothing. -/
theorem mapResult_any (r : FrameReply ε σ Value) : r.mapResult (Value.ofCarrier .any) = r := by
  obtain ⟨⟨s, outcome⟩, args⟩ := r
  cases outcome <;> rfl

end FrameReply

/-- The same of what an attempt in place has made. -/
theorem Reply.mapResult_some_any {ε σ : Type} (r : Reply ε σ (Option Value)) :
    r.mapResult (Option.map (Value.ofCarrier .any)) = r := by
  obtain ⟨s, outcome⟩ := r
  rcases outcome with fault | _ | result <;> rfl

/-! ### The entries of a method -/

namespace Method

variable {declaring : TypeTag} (m : Method declaring)

/-- A result of the declared type is given by the typed entry. -/
theorem entry?_result : m.entry? declaring m.result = some m.framed := by
  unfold entry? typed?
  rw [dif_pos ⟨rfl, rfl⟩]

/-- A boxed result is given by the widened entry, also when the declared result is boxed. -/
theorem entry?_any : m.entry? declaring .any = some m.widened := by
  obtain ⟨name, visibility, names, result, body⟩ := m
  by_cases hr : result = .any
  · -- the typed entry goes first, and boxing its result changes nothing
    subst hr
    refine (entry?_result _).trans (congrArg some ?_)
    funext s frame
    exact (FrameReply.mapResult_any _).symm
  · unfold entry? typed?
    rw [dif_neg fun h => hr h.2]
    simp only [dif_pos, widened?]

/-- An entry is given to those alone who name the declaring type, and want the result boxed or at
its declared type. -/
theorem asked_of_entry? {T R : TypeTag} {entry : Entry T.Carrier R.Carrier}
    (h : m.entry? T R = some entry) : T = declaring ∧ (R = .any ∨ R = m.result) := by
  unfold entry? typed? at h
  by_cases hTR : declaring = T ∧ m.result = R
  · exact ⟨hTR.1.symm, .inr hTR.2.symm⟩
  · rw [dif_neg hTR] at h
    by_cases hR : R = .any
    · subst hR
      by_cases hT : declaring = T
      · exact ⟨hT.symm, .inl rfl⟩
      · simp only [dif_pos, widened?, dif_neg hT] at h
        cases h
    · simp only [dif_neg hR] at h
      cases h

theorem inPlaceEntry?_result : m.inPlaceEntry? declaring m.result = m.inPlace? := by
  unfold inPlaceEntry?
  rw [dif_pos ⟨rfl, rfl⟩]

theorem inPlaceEntry?_any : m.inPlaceEntry? declaring .any = m.inPlaceWidened? := by
  obtain ⟨name, visibility, names, result, body⟩ := m
  by_cases hr : result = .any
  · subst hr
    refine (inPlaceEntry?_result _).trans ?_
    rw [inPlaceWidened?]
    have hsame : (fun (entry : InPlaceEntry declaring.Carrier Value) s args =>
        (entry s args).mapResult (Option.map (Value.ofCarrier .any))) = id := by
      funext entry s args
      exact (entry s args).mapResult_some_any
    exact (congrArg (Option.map · _) hsame).trans Option.map_id_apply |>.symm
  · unfold inPlaceEntry?
    rw [dif_neg fun h => hr h.2, dif_pos ⟨rfl, rfl⟩]

/-- No body adds a value to the frame or takes one from it. -/
theorem framed_keepsLength (s : declaring.Carrier) (frame : Frame) :
    (m.framed s frame).args.length = frame.values.length := by
  obtain ⟨name, visibility, names, result, body⟩ := m
  cases body with
  | shared types run | exclusive types run =>
    simp only [framed]
    cases Args.readFrame frame.values 0 types <;> rfl
  | raw formals run keepsLength => exact keepsLength s frame

/-- On a receiver of the declaring type the erased entry is the widened one. -/
theorem erased_mk (s : declaring.Carrier) (frame : Frame) :
    m.erased ⟨declaring, s⟩ frame = (m.widened s frame).mapReceiver (Sigma.mk declaring) := by
  rw [erased, dif_pos rfl]

/-- On a foreign receiver the erased entry stops before anything happens. -/
theorem erased_foreign {i : Instance} (h : i.1 ≠ declaring) (frame : Frame) :
    m.erased i frame = .stopped i frame.values (.error (i.mismatch declaring)) := dif_neg h

end Method

/-! ### Calls at several levels of typing -/

section Calls

variable {declaring : TypeTag} (m : Method declaring) (slots : List Slot)

/-- **A call that knows the receiver is the call that takes any**, its receiver packed. -/
theorem callFramed_erased_mk (s : declaring.Carrier) (args : List Value) :
    callFramed slots m.erased ⟨declaring, s⟩ args =
      (callFramed slots m.widened s args).mapReceiver (Sigma.mk declaring) := by
  simp only [callFramed]
  cases marshal args slots with
  | error fault => rfl
  | ok values => simp only [m.erased_mk]; rfl

/-- On a foreign receiver a call ends without effect, with the failure of the arguments if there is
one, and with the mismatch of the receiver otherwise. -/
theorem callFramed_erased_foreign {i : Instance} (h : i.1 ≠ declaring) (args : List Value) :
    callFramed slots m.erased i args =
      match marshal args slots with
      | .error fault => ⟨i, .error fault⟩
      | .ok _ => .refused i (.ofBind (i.mismatch declaring)) := by
  simp only [callFramed]
  cases marshal args slots with
  | error fault => rfl
  | ok values => simp only [m.erased_foreign h]; rfl

/-- **A call that boxes the result is the call that gives it as it is**, its result boxed. -/
theorem callFramed_widened (s : declaring.Carrier) (args : List Value) :
    callFramed slots m.widened s args =
      (callFramed slots m.framed s args).mapResult (Value.ofCarrier m.result) := by
  simp only [callFramed]
  cases marshal args slots with
  | error fault => rfl
  | ok values => simp only [Method.widened, FrameReply.mapResult, Reply.mapError_mapResult]

theorem callByRef_erased_mk (s : declaring.Carrier) (args : List Value) :
    callByRef slots m.erased ⟨declaring, s⟩ args =
      (callByRef slots m.widened s args).mapReceiver (Sigma.mk declaring) := by
  simp only [callByRef]
  cases marshal args slots with
  | error fault => rfl
  | ok values =>
    simp only [m.erased_mk]
    obtain ⟨⟨s', outcome⟩, left⟩ := m.widened s ⟨values, renewed args slots⟩
    cases outcome with
    | error fault => rfl
    | ok result =>
      simp only [FrameReply.mapReceiver, Reply.mapReceiver]
      cases writeBack slots left args <;> rfl

theorem callByRef_widened (s : declaring.Carrier) (args : List Value) :
    callByRef slots m.widened s args =
      (callByRef slots m.framed s args).mapResult (Value.ofCarrier m.result) := by
  simp only [callByRef]
  cases marshal args slots with
  | error fault => rfl
  | ok values =>
    simp only [Method.widened]
    obtain ⟨⟨s', outcome⟩, left⟩ := m.framed s ⟨values, renewed args slots⟩
    cases outcome with
    | error fault => rfl
    | ok result =>
      simp only [FrameReply.mapResult, Reply.mapResult, Except.map]
      cases writeBack slots left args <;> rfl

end Calls

end LateBinding
