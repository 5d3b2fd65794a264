import LateBinding.Proofs.Marshalling
import LateBinding.Delegate

/-!
# Typing: what entry points are given, and what they give

The entry point of a member reads its arguments at the declared types, and what it hands over is
boxed from a datum of the declared result type.  This file says when values are of declared types.

* `Formal.fits`, `fitsEach` — a value is of the type of a parameter, and a frame holds one such
  value for each parameter; `fitsEach_iff` says it position by position;
* `fitsEach_of_coerced` — coerced arguments fit;
* `Args.readFrame_of_fitsEach` — **a frame that fits can be read**;
* `guard`, `Entry.guarded` — an entry point that is entered only through frames that fit;
* `callFramed_congr`, `callByRef_congr`, `construct_congr` — calls through the slots of the
  parameters enter through no other frames;
* `Value.Conforms`, `Gives` — a value is a boxed datum of a type, and a call gives such values only;
* `conforms_ofCarrier`, `gives_callFramed`, `gives_callByRef`, `gives_construct` — what calls give.
-/

namespace LateBinding

/-! ### Frames that fit -/

/-- Whether a value is of the type of a parameter.  Any value is, null too, where the parameter is
of the type of all values. -/
def Formal.fits (p : Formal) (v : Value) : Bool := p.element = .any || v.tag? = some p.element

/-- Whether a frame holds one value for each parameter, of its type. -/
def fitsEach : List Formal → List Value → Bool
  | [], [] => true
  | p :: ps, v :: frame => p.fits v && fitsEach ps frame
  | _, _ => false

theorem fitsEach_iff {formals : List Formal} :
    ∀ {frame : List Value}, fitsEach formals frame ↔ frame.length = formals.length ∧
      ∀ (k : Nat) (p : Formal), formals[k]? = some p → ∃ v, frame[k]? = some v ∧ p.fits v := by
  induction formals with
  | nil =>
    intro frame
    cases frame with
    | nil => exact ⟨fun _ => ⟨rfl, nofun⟩, fun _ => rfl⟩
    | cons v frame => exact ⟨nofun, fun h => absurd h.1 nofun⟩
  | cons p ps ih =>
    intro frame
    cases frame with
    | nil => exact ⟨nofun, fun h => absurd h.1 nofun⟩
    | cons v frame =>
      rw [fitsEach, Bool.and_eq_true, ih, List.length_cons, List.length_cons]
      constructor
      · rintro ⟨hv, hlen, hrest⟩
        refine ⟨congrArg Nat.succ hlen, ?_⟩
        intro k q hq
        cases k with
        | zero => cases hq; exact ⟨v, rfl, hv⟩
        | succ k => exact hrest k q hq
      · rintro ⟨hlen, h⟩
        obtain ⟨w, hw, hfits⟩ := h 0 p rfl
        cases hw
        exact ⟨hfits, Nat.succ.inj hlen, fun k q hq => h (k + 1) q hq⟩

theorem Formal.fits_of_coerce {p : Formal} {v w : Value} (h : v.coerce p.element = some w) :
    p.fits w := by
  rw [fits, Bool.or_eq_true, decide_eq_true_iff, decide_eq_true_iff]
  by_cases hp : p.element = .any
  · exact .inl hp
  · exact .inr (Value.tag?_coerce h hp)

/-- **Coerced arguments fit.** -/
theorem fitsEach_of_coerced {formals : List Formal} {args frame : List Value}
    (h : Coerced formals args frame) : fitsEach formals frame := by
  refine fitsEach_iff.mpr ⟨h.1, ?_⟩
  intro k p hp
  obtain ⟨arg, v, -, hv, hframe⟩ := h.2 k p hp
  exact ⟨v, hframe, Formal.fits_of_coerce hv⟩

/-! ### Reading what fits -/

theorem Formal.fromExact?_of_fits {T : TypeTag} {v : Value} (h : (byValue T).fits v) :
    ∃ x, v.fromExact? T = some x := by
  rw [fits, Bool.or_eq_true, decide_eq_true_iff, decide_eq_true_iff] at h
  rcases h with hT | hv
  · obtain rfl : T = .any := hT
    exact ⟨v, rfl⟩
  · exact Value.fromExact?_of_tag? hv

/-- A frame that fits can be read behind other values, as it is when its first arguments have been
read. -/
theorem Args.readFrame_append {types : List TypeTag} :
    ∀ (before : List Value) {frame : List Value}, fitsEach (types.map .byValue) frame →
      ∃ xs, readFrame (before ++ frame) before.length types = .ok xs := by
  induction types with
  | nil => intro before frame _; exact ⟨(), rfl⟩
  | cons T types ih =>
    intro before frame h
    cases frame with
    | nil => cases h
    | cons v frame =>
      rw [List.map_cons, fitsEach, Bool.and_eq_true] at h
      obtain ⟨x, hx⟩ := Formal.fromExact?_of_fits h.1
      have hread : v.fromValue T = .ok x := Value.fromValue_eq_ok_iff.mpr hx
      obtain ⟨xs, hxs⟩ := ih (before ++ [v]) h.2
      rw [List.append_assoc, List.singleton_append, List.length_append,
        List.length_singleton] at hxs
      refine ⟨(x, xs), ?_⟩
      rw [readFrame, List.getElem?_append_right (Nat.le_refl _), Nat.sub_self,
        List.getElem?_cons_zero]
      simp only [hread, hxs]

/-- **A frame that fits can be read.** -/
theorem Args.readFrame_of_fitsEach {types : List TypeTag} {frame : List Value}
    (h : fitsEach (types.map .byValue) frame) : ∃ xs, readFrame frame 0 types = .ok xs :=
  readFrame_append [] h

/-- Giving a value up for its datum succeeds where looking at it does. -/
theorem Value.takeValue_eq_ok_iff {T : TypeTag} {v : Value} {x : T.Carrier} :
    v.takeValue T = .ok x ↔ v.fromExact? T = some x := by
  rw [takeValue_eq_fromValue]
  exact fromValue_eq_ok_iff

/-! ### Guarded entry points -/

/-- An entry point that is entered only through frames that fit; through others it goes
`otherwise`. -/
def guard {α : Type} (formals : List Formal) (otherwise entry : List Value → α)
    (frame : List Value) : α :=
  if fitsEach formals frame then entry frame else otherwise frame

theorem guard_of_fitsEach {α : Type} {formals : List Formal} {otherwise entry : List Value → α}
    {frame : List Value} (h : fitsEach formals frame) :
    guard formals otherwise entry frame = entry frame := if_pos h

/-- An entry point of a method that ends with a fault unless the frame fits. -/
def Entry.guarded {σ ρ : Type} (formals : List Formal) (fault : Fault BindError)
    (entry : Entry σ ρ) : Entry σ ρ :=
  fun s frame => guard formals (fun values => .stopped s values fault) (fun _ => entry s frame)
    frame.values

section Calls

variable {σ ρ : Type} {formals : List Formal} {variant : Variant}

theorem fitsEach_of_marshal {args frame : List Value}
    (h : marshal args (Slot.ofFormals variant 0 formals) = .ok frame) : fitsEach formals frame :=
  fitsEach_of_coerced (coerced_of_marshal h)

/-- **A call through a frame enters only through frames that fit.**  Entry points that agree on
those make the same call. -/
theorem callFramed_congr {entry entry' : Entry σ ρ}
    (h : ∀ s frame, fitsEach formals frame.values → entry s frame = entry' s frame) :
    callFramed (Slot.ofFormals variant 0 formals) entry =
      callFramed (Slot.ofFormals variant 0 formals) entry' := by
  funext s args
  simp only [callFramed]
  cases hframe : marshal args (Slot.ofFormals variant 0 formals) with
  | error fault => rfl
  | ok values => simp only [h s ⟨values, _⟩ (fitsEach_of_marshal hframe)]

/-- **So does a call with write-back.** -/
theorem callByRef_congr {entry entry' : Entry σ ρ}
    (h : ∀ s frame, fitsEach formals frame.values → entry s frame = entry' s frame) :
    callByRef (Slot.ofFormals variant 0 formals) entry =
      callByRef (Slot.ofFormals variant 0 formals) entry' := by
  funext s args
  simp only [callByRef]
  cases hframe : marshal args (Slot.ofFormals variant 0 formals) with
  | error fault => rfl
  | ok values => simp only [h s ⟨values, _⟩ (fitsEach_of_marshal hframe)]

/-- **And so does construction.** -/
theorem construct_congr {entry entry' : List Value → Except (Fault BindError) ρ}
    (h : ∀ frame, fitsEach formals frame → entry frame = entry' frame) :
    construct (Slot.ofFormals variant 0 formals) entry =
      construct (Slot.ofFormals variant 0 formals) entry' := by
  funext args
  simp only [construct]
  cases hframe : marshal args (Slot.ofFormals variant 0 formals) with
  | error fault => rfl
  | ok frame => simp only [h frame (fitsEach_of_marshal hframe)]

end Calls

/-! ### Results -/

/-- A value that a datum of type `T` is boxed to: null for the unit datum, any value for the type of
all values, and otherwise a value of exactly this type. -/
def Value.Conforms : TypeTag → Value → Prop
  | .any, _ => True
  | .unit, v => v = .null
  | T, v => v.tag? = some T

theorem Value.conforms_ofCarrier : ∀ (T : TypeTag) (x : T.Carrier), (ofCarrier T x).Conforms T
  | .any, _ => trivial
  | .unit, _ => rfl
  | .object, x => nomatch x
  | .leaf _, _ => rfl
  | .optional, _ => rfl
  | .record _, _ => rfl

/-- An outcome that is no value, or one of type `T`. -/
def Gives {ε : Type} (T : TypeTag) (outcome : Except ε Value) : Prop :=
  ∀ v, outcome = .ok v → v.Conforms T

section Gives

variable {ε ε' σ : Type} {T : TypeTag}

theorem gives_error (e : ε) : Gives T (.error e) := nofun

theorem gives_map_ofCarrier (outcome : Except ε T.Carrier) :
    Gives T (outcome.map (Value.ofCarrier T)) := by
  intro v hv
  cases outcome with
  | error e => cases hv
  | ok x => cases hv; exact Value.conforms_ofCarrier T x

theorem Gives.mapError {outcome : Except ε Value} (f : ε → ε') (h : Gives T outcome) :
    Gives T (outcome.mapError f) := by
  intro v hv
  cases outcome with
  | error e => cases hv
  | ok x => cases hv; exact h v rfl

variable {slots : List Slot} {entry : Entry σ Value}

theorem gives_callFramed (h : ∀ s frame, Gives T (entry s frame).outcome) (s : σ)
    (args : List Value) : Gives T (callFramed slots entry s args).outcome := by
  simp only [callFramed]
  cases marshal args slots with
  | error fault => exact gives_error fault
  | ok values => exact (h s ⟨values, _⟩).mapError _

theorem gives_callByRef (h : ∀ s frame, Gives T (entry s frame).outcome) (s : σ)
    (args : List Value) : Gives T (callByRef slots entry s args).outcome := by
  simp only [callByRef]
  cases marshal args slots with
  | error fault => exact gives_error fault
  | ok values =>
    have hreply := (h s ⟨values, renewed args slots⟩).mapError (Fault.map DelegateError.ofBind)
    simp only
    split
    · exact hreply
    · split
      · exact hreply
      · exact gives_error _

theorem gives_construct {entry : List Value → Except (Fault BindError) Value}
    (h : ∀ frame, Gives T (entry frame)) (args : List Value) :
    Gives T (construct slots entry args) := by
  simp only [construct]
  cases marshal args slots with
  | error fault => exact gives_error fault
  | ok frame => exact (h frame).mapError _

end Gives

end LateBinding
