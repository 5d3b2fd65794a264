import LateBinding.Proofs.Marshalling

/-!
# Closures: calls of a function, and how often they run it

A function that is called through a delegate reads all its arguments before it runs.  This file
follows such a call at any level of typing and counts the runs of the function on the way.

* `Closure`, `Function` — a function with typed arguments, which may stop half-way, and one that
  does not; `Counted` — a value with the number of runs it took;
* `Packing` — how a level of typing wraps the state of the receiver: `Packing.bare` and
  `Packing.tagged`;
* `Closure.attempt`, `Closure.enter`, `Closure.call` — the attempt in place, the entry through a
  frame, and the call that tries the one before the other;
* `Closure.callFramed_eq_supply` — a call through a frame is one run on the arguments supplied, or
  nothing;
* `Closure.call_value` — the attempt in place does not show in the reply;
* `Closure.attempt_declined`, `Closure.attempt_runs`, `Closure.call_runs` — an attempt that declines
  has run nothing and leaves the receiver alone, and a call runs the function once or, when it ends
  with a fault that is not the function's own, not at all;
* `Closure.Traced` — a call, and the attempt it begins with, that are accounted for in this way.
-/

namespace LateBinding

/-- A function with typed arguments, which may change a state and may stop half-way. -/
structure Closure (τ ρ : Type) where
  types : List TypeTag
  run : τ → Args types → τ × Ending ρ

/-- A function that always ends with a result. -/
structure Function (τ ρ : Type) where
  types : List TypeTag
  run : τ → Args types → τ × ρ

/-- Whether a call has come to its function: it ended well, or half-way. -/
def entered {ε ρ : Type} : Except (Fault ε) ρ → Bool
  | .ok _ | .error (.aborted _) => true
  | .error (.error _) | .error (.outOfBounds _ _) => false

/-- A value together with the number of times a function ran to get it. -/
structure Counted (α : Type) where
  value : α
  runs : Nat

/-- How a receiver wraps its state. -/
structure Packing (σ τ : Type) where
  /-- The state, or the failure on a foreign receiver. -/
  unpack : σ → Except BindError τ
  pack : τ → σ

namespace Packing

/-- The receiver is its state. -/
def bare (τ : Type) : Packing τ τ := ⟨.ok, id⟩

/-- The receiver comes with its type, which has to be the declaring one. -/
def tagged (declaring : TypeTag) : Packing Instance declaring.Carrier where
  unpack i := if h : i.1 = declaring then .ok (h ▸ i.2) else .error (i.mismatch declaring)
  pack := Sigma.mk declaring

end Packing

/-- What a function ends with is the same seen from a delegate. -/
theorem Ending.mapError_outcome {ε ε' ρ : Type} (carry : ε → ε') (ending : Ending ρ) :
    (ending.outcome : Except (Fault ε) ρ).mapError (Fault.map carry) = ending.outcome := by
  cases ending <;> rfl

theorem Ending.map_outcome {ε ρ ρ' : Type} (g : ρ → ρ') (ending : Ending ρ) :
    (ending.outcome : Except (Fault ε) ρ).map g = Ending.outcome (ending.map g) := by
  cases ending <;> rfl

namespace Closure

variable {σ τ ρ : Type}

/-- The function with its result boxed. -/
def boxed {T : TypeTag} (f : Closure τ T.Carrier) : Closure τ Value :=
  ⟨f.types, fun s xs => ((f.run s xs).1, (f.run s xs).2.map (Value.ofCarrier T))⟩

variable (f : Closure τ ρ) (a : Packing σ τ)

/-- The slots of the arguments. -/
def slots : List Slot := Slot.ofFormals .byValue 0 (f.types.map .byValue)

/-! ### Calls that count -/

/-- The attempt in place.  The function runs once the receiver is reached and the arguments are
read. -/
def attempt (s : σ) (args : List Value) : Counted (Reply BindError σ (Option ρ)) :=
  match a.unpack s with
  | .error e => ⟨.refused s e, 0⟩
  | .ok x =>
    match Args.readExact? args 0 f.types with
    | none => ⟨.declined s, 0⟩
    | some xs => ⟨⟨a.pack (f.run x xs).1, (f.run x xs).2.outcome.map some⟩, 1⟩

/-- The entry through a frame. -/
def enter (s : σ) (frame : Frame) : Counted (FrameReply BindError σ ρ) :=
  match a.unpack s with
  | .error e => ⟨.stopped s frame.values (.error e), 0⟩
  | .ok x =>
    match Args.readFrame frame.values 0 f.types with
    | .error fault => ⟨.stopped s frame.values fault, 0⟩
    | .ok xs => ⟨⟨⟨a.pack (f.run x xs).1, (f.run x xs).2.outcome⟩, frame.values⟩, 1⟩

/-- The call: the attempt in place, and then the frame if the attempt declines or is refused. -/
def call (s : σ) (args : List Value) : Counted (Reply DelegateError σ ρ) :=
  let attempted := f.attempt a s args
  match attempted.value.outcome with
  | .ok (some result) => ⟨⟨attempted.value.receiver, .ok result⟩, attempted.runs⟩
  | .ok none | .error (.error _) =>
    match marshal args f.slots with
    | .error fault => ⟨⟨attempted.value.receiver, .error fault⟩, attempted.runs⟩
    | .ok values =>
      let entered := f.enter a attempted.value.receiver ⟨values, renewed args f.slots⟩
      ⟨entered.value.toReply.mapError .ofBind, attempted.runs + entered.runs⟩
  | .error fault => ⟨⟨attempted.value.receiver, .error (fault.map .ofBind)⟩, attempted.runs⟩

/-- The attempt without the count. -/
def inPlace : InPlaceEntry σ ρ := fun s args => (f.attempt a s args).value

/-- The entry without the count. -/
def framed : Entry σ ρ := fun s frame => (f.enter a s frame).value

/-! ### What a call comes to -/

/-- One run on a receiver that can be reached. -/
def runOn (s : σ) (xs : Args f.types) : Reply DelegateError σ ρ :=
  match a.unpack s with
  | .error e => .refused s (.ofBind e)
  | .ok x => ⟨a.pack (f.run x xs).1, (f.run x xs).2.outcome⟩

/-- **A call through a frame is one run on the arguments supplied, or nothing.** -/
theorem callFramed_eq_supply (s : σ) (args : List Value) :
    callFramed f.slots (f.framed a) s args =
      match Args.supply args 0 f.types with
      | .error fault => ⟨s, .error fault⟩
      | .ok xs => f.runOn a s xs := by
  simp only [callFramed]
  cases hm : marshal args f.slots with
  | error fault => rw [Args.supply_of_marshal_error hm]
  | ok frame =>
    obtain ⟨xs, hxs, hread⟩ := Args.supply_of_marshal_ok hm
    have hframe : Args.readFrame frame 0 f.types = .ok xs := hread []
    rw [hxs]
    simp only [framed, enter, runOn, hframe]
    cases a.unpack s with
    | error e => rfl
    | ok x => simp only [Reply.mapError, Ending.mapError_outcome]

/-- Once the receiver is reached and the arguments are read the attempt is a run. -/
theorem attempt_of_readExact? {s : σ} {x : τ} {args : List Value} {xs : Args f.types}
    (hs : a.unpack s = .ok x) (hx : Args.readExact? args 0 f.types = some xs) :
    f.attempt a s args =
      ⟨⟨a.pack (f.run x xs).1, (f.run x xs).2.outcome.map some⟩, 1⟩ := by
  simp only [attempt, hs, hx]

/-- **The attempt in place does not show in the reply.** -/
theorem callInPlace_eq_callFramed :
    callInPlace (some (f.inPlace a)) f.slots (f.framed a) = callFramed f.slots (f.framed a) := by
  funext s args
  simp only [callInPlace, inPlace]
  cases hs : a.unpack s with
  | error e => simp only [attempt, hs]; rfl
  | ok x =>
    cases hx : Args.readExact? args 0 f.types with
    | none => simp only [attempt, hs, hx]; rfl
    | some xs =>
      -- what the attempt achieves, the frame achieves
      have hframed : callFramed f.slots (f.framed a) s args =
          ⟨a.pack (f.run x xs).1, (f.run x xs).2.outcome⟩ := by
        rw [callFramed_eq_supply, Args.supply_of_readExact? hx]
        simp only [runOn, hs]
      rw [hframed, f.attempt_of_readExact? a hs hx]
      cases (f.run x xs).2 <;> rfl

/-- The value of the counted call is the call that tries in place first. -/
theorem call_value (s : σ) (args : List Value) :
    (f.call a s args).value = callInPlace (some (f.inPlace a)) f.slots (f.framed a) s args := by
  simp only [call, callInPlace, callFramed, inPlace, framed]
  rcases (f.attempt a s args).value.outcome with (_ | _ | _) | _ | _
  case error.error | ok.none => cases marshal args f.slots <;> rfl
  all_goals rfl

/-! ### How often the function runs -/

/-- **An attempt that declines or is refused leaves the receiver alone, and has not run the
function.** -/
theorem attempt_declined {s : σ} {args : List Value}
    (h : (f.attempt a s args).value.outcome = .ok none ∨
      ∃ e, (f.attempt a s args).value.outcome = .error (.error e)) :
    (f.attempt a s args).value.receiver = s ∧ (f.attempt a s args).runs = 0 := by
  simp only [attempt] at h ⊢
  cases hs : a.unpack s with
  | error e => exact ⟨rfl, rfl⟩
  | ok x =>
    cases hx : Args.readExact? args 0 f.types with
    | none => exact ⟨rfl, rfl⟩
    | some xs =>
      simp only [hs, hx] at h
      cases hend : (f.run x xs).2 with
      | ok r =>
        rw [hend] at h
        rcases h with h | ⟨e, h⟩ <;> cases h
      | error text =>
        rw [hend] at h
        rcases h with h | ⟨e, h⟩ <;> cases h

/-- An attempt that comes to the function has run it once. -/
theorem attempt_runs {s : σ} {args : List Value}
    (hnone : (f.attempt a s args).value.outcome ≠ .ok none) :
    (f.attempt a s args).runs = (entered (f.attempt a s args).value.outcome).toNat := by
  simp only [attempt] at hnone ⊢
  cases hs : a.unpack s with
  | error e => rfl
  | ok x =>
    cases hx : Args.readExact? args 0 f.types with
    | none =>
      rw [hs, hx] at hnone
      exact absurd rfl hnone
    | some xs =>
      simp only
      cases (f.run x xs).2 <;> rfl

theorem enter_runs (s : σ) {values : List Value} {xs : Args f.types}
    (hread : Args.readFrame values 0 f.types = .ok xs) (sole : Nat → Bool) :
    (f.enter a s ⟨values, sole⟩).runs =
      (entered (f.enter a s ⟨values, sole⟩).value.outcome).toNat := by
  simp only [enter]
  cases a.unpack s with
  | error e => rfl
  | ok x =>
    simp only [hread]
    cases (f.run x xs).2 <;> rfl

/-- Whether a call has come to its function does not depend on who sees it. -/
theorem entered_mapError {ε ε' : Type} (carry : ε → ε') (outcome : Except (Fault ε) ρ) :
    entered (outcome.mapError (Fault.map carry)) = entered outcome := by
  rcases outcome with (_ | _ | _) | _ <;> rfl

theorem not_entered_marshal {args : List Value} {slots : List Slot} {fault : Fault DelegateError}
    (h : marshal args slots = .error fault) :
    entered (.error fault : Except (Fault DelegateError) ρ) = false := by
  induction slots with
  | nil => cases h
  | cons slot slots ih =>
    rw [marshal] at h
    split at h
    · cases h
      rfl
    split at h
    · cases h
      rfl
    split at h
    · rename_i hrest
      cases h
      exact ih hrest
    · cases h

/-- What a call comes to when the attempt in place has come to nothing. -/
theorem call_runs_of_declined {s : σ} {args : List Value}
    (h : (f.attempt a s args).value.outcome = .ok none ∨
      ∃ e, (f.attempt a s args).value.outcome = .error (.error e)) :
    (f.call a s args).runs = (entered (f.call a s args).value.outcome).toNat := by
  obtain ⟨-, hruns⟩ := f.attempt_declined a h
  have hcall : f.call a s args =
      match marshal args f.slots with
      | .error fault => ⟨⟨(f.attempt a s args).value.receiver, .error fault⟩, 0⟩
      | .ok values =>
        let entered := f.enter a (f.attempt a s args).value.receiver
          ⟨values, renewed args f.slots⟩
        ⟨entered.value.toReply.mapError .ofBind, 0 + entered.runs⟩ := by
    rcases h with h | ⟨e, h⟩ <;> simp only [call, h, hruns]
  rw [hcall]
  cases hm : marshal args f.slots with
  | error fault =>
    simp only [not_entered_marshal hm]
    rfl
  | ok values =>
    obtain ⟨xs, -, hread⟩ := Args.supply_of_marshal_ok hm
    simp only [Nat.zero_add, Reply.mapError, entered_mapError]
    exact f.enter_runs a _ (hread []) _

/-- **A call that comes to the function has run it once, any other has not run it.** -/
theorem call_runs (s : σ) (args : List Value) :
    (f.call a s args).runs = (entered (f.call a s args).value.outcome).toNat := by
  cases hout : (f.attempt a s args).value.outcome with
  | ok made? =>
    cases made? with
    | none => exact f.call_runs_of_declined a (.inl hout)
    | some result =>
      have hruns := f.attempt_runs a (by rw [hout]; nofun)
      rw [hout] at hruns
      simp only [call, hout, hruns, entered]
  | error fault =>
    cases fault with
    | error e => exact f.call_runs_of_declined a (.inr ⟨e, hout⟩)
    | outOfBounds | aborted =>
      have hruns := f.attempt_runs a (by rw [hout]; nofun)
      rw [hout] at hruns
      simp only [call, hout, hruns, entered, Fault.map]

/-- A call that begins with an attempt in place, both accounted for by runs of the function. -/
structure Traced (attempt? : Option (InPlaceEntry σ ρ))
    (call : σ → List Value → Reply DelegateError σ ρ) : Prop where
  attempt_eq : attempt? = some fun s args => (f.attempt a s args).value
  call_eq : call = fun s args => (f.call a s args).value
  /-- An attempt that declines or is refused has not run the function, and leaves the receiver
  alone. -/
  declined : ∀ s args, (f.attempt a s args).value.outcome = .ok none ∨
      (∃ e, (f.attempt a s args).value.outcome = .error (.error e)) →
    (f.attempt a s args).value.receiver = s ∧ (f.attempt a s args).runs = 0
  /-- No call runs the function twice. -/
  once : ∀ s args, (f.call a s args).runs ≤ 1
  /-- Those calls run it that end well, or half-way in the function. -/
  ran_iff : ∀ s args, (f.call a s args).runs = 1 ↔ entered (call s args).outcome

theorem traced : f.Traced a (some (f.inPlace a))
    (callInPlace (some (f.inPlace a)) f.slots (f.framed a)) where
  attempt_eq := rfl
  call_eq := by
    funext s args
    exact (f.call_value a s args).symm
  declined s args := f.attempt_declined a
  once := by
    intro s args
    rw [f.call_runs]
    exact Bool.toNat_le _
  ran_iff := by
    intro s args
    rw [f.call_runs, ← f.call_value]
    exact Bool.toNat_eq_one

end Closure

/-! ### Functions that end with a result -/

namespace Function

variable {τ ρ : Type}

/-- The function as one that might stop half-way. -/
def closure (f : Function τ ρ) : Closure τ ρ :=
  ⟨f.types, fun s xs => ((f.run s xs).1, .ok (f.run s xs).2)⟩

/-- The function with its result boxed. -/
def boxed {T : TypeTag} (f : Function τ T.Carrier) : Function τ Value :=
  ⟨f.types, fun s xs => ((f.run s xs).1, Value.ofCarrier T (f.run s xs).2)⟩

theorem closure_boxed {T : TypeTag} (f : Function τ T.Carrier) :
    f.boxed.closure = f.closure.boxed := rfl

end Function

end LateBinding
