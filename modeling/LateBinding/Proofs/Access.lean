import LateBinding.Proofs.Closure
import LateBinding.Proofs.Typing
import LateBinding.Delegate.Compile

/-!
# Access: reading and writing properties

A property is read and written by reflection and by delegates of three levels of typing.  Writing
converts the value, and then takes the datum out of it.  The ways differ in one thing: a reflective
write keeps the value while the accessor runs, and a delegate gives it up.

* `Memory.take` — the datum behind a handle, if it is of the type asked for;
* `Retyped.settle_plain`, `Memory.plain_coerce` — what is handed on of a plain value;
* `Check.applyOwned_ofType` — the check of an assigned value is the coercion of a reflective write;
* `Value.takeValue_of_coerce` — the datum of a coerced value can always be taken;
* `Property.Stores`, `Property.Assigns` — an accessor that stores a datum, and a way to write that
  converts the value and stores its datum, or else leaves the receiver alone;
* `Property.assigns_set`, `Property.assigns_compileSetter`,
  `Property.assigns_compileSetterTyped_any`, `Property.exists_compileSetterTyped_type` — the four
  ways to write;
* `Property.gives_get`, `Property.gives_compileGetter`, `Property.gives_compileGetterTyped_any` —
  what the ways to read give.
-/

namespace LateBinding

/-! ### Data behind handles -/

namespace Memory

variable {μ ν : Type} (m : Memory μ ν)

/-- The datum behind a handle; at the type of all values that is the handle. -/
def take (u : μ) (T : TypeTag) (v : ν) : Option (T.Holding ν) := (m.takeValue u T v).toOption

theorem take_of_ne_any {T : TypeTag} (hT : T ≠ .any) (u : μ) (v : ν) :
    m.take u T v = (m.content? u v).bind (Content.as? T) := by
  have htaken : m.takeValue u T v = Content.taken T (m.content? u v) := by
    cases T with
    | any => exact absurd rfl hT
    | unit | object | leaf | optional | record => rfl
  rw [take, htaken]
  cases m.content? u v with
  | none => rfl
  | some content =>
    rw [Content.taken, Option.bind_some]
    cases content.as? T <;> rfl

end Memory

/-! ### Plain values -/

/-- A value that serves as it is comes as it came, a new one by a handle of its own. -/
theorem Retyped.settle_plain (r : Retyped Value) (v : Handed Value) (u : Unit) :
    r.settle .plain v u = (⟨r.on v.datum, r.isFresh || v.sole⟩, u) := by
  cases r <;> rfl

namespace Memory

theorem plain_coerce (T : TypeTag) (v : Value) (u : Unit) :
    plain.coerce T v u = (v.coerce T).map fun w => (⟨w, v.renewed T⟩, u) := by
  rw [coerce, Value.coerce, Value.renewed, Value.retyped?, Option.map_map]
  show (retype T v.content?).map _ = _
  cases retype T v.content? with
  | none => rfl
  | some r => simp only [Option.map_some, Function.comp_apply, Retyped.settle_plain, Bool.or_false,
      Option.any_some]

theorem plain_takeValue (T : TypeTag) (v : Value) (u : Unit) :
    plain.takeValue u T v = v.takeValue T := by
  cases T <;> rfl

theorem plain_take (T : TypeTag) (v : Value) (u : Unit) : plain.take u T v = v.fromExact? T := by
  by_cases hT : T = .any
  · subst hT
    rfl
  · rw [take_of_ne_any _ hT, Value.fromExact?_of_ne_any hT]
    rfl

theorem plain_ofHolding (T : TypeTag) (x : T.Carrier) (u : Unit) :
    plain.ofHolding u T x = (Value.ofCarrier T x, u) := by
  cases T <;> first | rfl | exact nomatch x

end Memory

/-! ### Converting an assigned value -/

/-- A value that is given up is checked like one that is only looked at. -/
theorem Check.retypeOwned_eq_retype {ν : Type} (c : Check) (content? : Option (Content ν)) :
    c.retypeOwned content? = c.retype content? := by
  cases c with
  | passthrough => rfl
  | checked T =>
    rw [retypeOwned, retype]
    by_cases hv : content?.map Content.tag = some T
    · rw [if_neg (not_not_intro hv), if_pos hv]
    · rw [if_pos hv, if_neg hv]

theorem Check.applyOwned_ofType (T : TypeTag) (v : Value) :
    (ofType T).applyOwned v =
      match v.coerce T with
      | none => .error (.ofBind (v.mismatch T))
      | some w => .ok w := by
  have happly := apply_ofType (.byValue T) v
  rw [apply, ← retypeOwned_eq_retype, coerceArgument, Formal.byValue] at happly
  rw [applyOwned]
  refine happly.trans ?_
  cases v.coerce T <;> rfl

/-- The datum of a coerced value can be taken, and it is what the value is converted to. -/
theorem Value.takeValue_of_coerce {T : TypeTag} {v w : Value} (h : v.coerce T = some w) :
    ∃ x, v.converted? T = some x ∧ w.takeValue T = .ok x := by
  obtain ⟨x, hx, hread⟩ := fromValue_of_coerce h
  exact ⟨x, hx, takeValue_eq_ok_iff.mpr (fromValue_eq_ok_iff.mp hread)⟩

namespace Property

variable {declaring : TypeTag} {p : Property declaring}

/-! ### Storing a datum -/

section Assigns

variable {ε σ : Type} (store : declaring.Carrier → Handed p.type.Carrier → declaring.Carrier)
  (a : Packing σ declaring.Carrier)

/-- An accessor that stores the datum it takes out of a value, on receivers that it reaches. -/
def Stores (write : σ → Handed Value → Unit → Reply BindError σ Unit) : Prop :=
  ∀ s v x u, v.datum.takeValue p.type = .ok x → write s v u =
    match a.unpack s with
    | .error e => .refused s e
    | .ok state => ⟨a.pack (store state ⟨x, v.sole⟩), .ok ()⟩

/-- A way to write.  The value is converted and its datum stored; a value that does not convert and
a receiver that is not reached are refused, and nothing else is.  A datum that is made anew is
handed over with its only handle, and one that is not is if the caller had the only handle and gave
it up. -/
def Assigns (carry : BindError → ε) (givenUp : Bool)
    (write : σ → Handed Value → Reply ε σ Unit) : Prop :=
  ∀ s v, write s v =
    match v.datum.converted? p.type with
    | none => .refused s (carry (v.datum.mismatch p.type))
    | some x =>
      match a.unpack s with
      | .error e => .refused s (carry e)
      | .ok state =>
        ⟨a.pack (store state ⟨x, v.datum.renewed p.type || givenUp && v.sole⟩), .ok ()⟩

variable {store a}

/-- **Behind the check of a delegate taking the datum does not fail.** -/
theorem assigns_writeChecked {write : σ → Handed Value → Unit → Reply BindError σ Unit}
    (h : p.Stores store a write) :
    p.Assigns store a .ofBind true
      fun s v => (writeChecked .plain (.ofType p.type) write s v ()).1 := by
  intro s v
  have howned : (Check.ofType p.type).retypeOwned (Memory.plain.content? () v.datum) =
      (Check.ofType p.type).retype v.datum.content? := Check.retypeOwned_eq_retype _ _
  cases hr : v.datum.retyped? p.type with
  | none =>
    have hcoerce : v.datum.coerce p.type = none := by rw [Value.coerce, hr, Option.map_none]
    have hrefused : (Check.ofType p.type).retype v.datum.content? =
        .error (.ofBind (v.datum.mismatch p.type)) := by
      rw [Check.retype_ofType, hr]
      rfl
    simp only [writeChecked, howned, hrefused, Value.converted?_eq_none_iff.mpr hcoerce]
  | some r =>
    have hcoerce : v.datum.coerce p.type = some (r.on v.datum) := by
      rw [Value.coerce, hr, Option.map_some]
    have hpassed : (Check.ofType p.type).retype v.datum.content? = .ok r := by
      rw [Check.retype_ofType, hr]
    obtain ⟨x, hx, htake⟩ := Value.takeValue_of_coerce hcoerce
    simp only [writeChecked, howned, hpassed, Retyped.settle_plain, hx,
      h s ⟨r.on v.datum, _⟩ x () htake, Value.renewed, hr, Option.any_some, Bool.true_and]
    cases a.unpack s <;> rfl

end Assigns

section Write

variable {store : declaring.Carrier → Handed p.type.Carrier → declaring.Carrier}
  (hp : p.write? = some store)

include hp

theorem exists_writeWidened? :
    ∃ write, p.writeWidened? .plain = some write ∧ p.Stores store (.bare _) write := by
  rw [writeWidened?, hp]
  refine ⟨_, rfl, ?_⟩
  intro s v x u hx
  simp only [Memory.plain_takeValue, hx]
  rfl

theorem exists_writeErased? :
    ∃ write, p.writeErased? .plain = some write ∧ p.Stores store (.tagged declaring) write := by
  obtain ⟨write, hwrite, hstores⟩ := exists_writeWidened? hp
  rw [writeErased?, hwrite]
  refine ⟨_, rfl, ?_⟩
  intro i v x u hx
  by_cases hi : i.1 = declaring
  · simp only [dif_pos hi, hstores _ v x u hx, Packing.tagged]
    rfl
  · simp only [dif_neg hi, Packing.tagged]

/-! ### The four ways to write -/

/-- **A reflective write assigns**, and keeps the value. -/
theorem assigns_set : p.Assigns store (.tagged declaring) id false p.set := by
  obtain ⟨write, hwrite, hstores⟩ := exists_writeErased? hp
  intro i v
  simp only [set, setOn, hwrite, Memory.plain_coerce]
  cases hw : v.datum.coerce p.type with
  | none =>
    rw [Value.converted?_eq_none_iff.mpr hw]
    rfl
  | some w =>
    obtain ⟨x, hx, htake⟩ := Value.takeValue_of_coerce hw
    simp only [Option.map_some, hx, hstores i ⟨w, _⟩ x () htake, Bool.false_and, Bool.or_false]
    rfl

end Write

section Generic

variable {ν : Type} {p : Property declaring ν}
  {store : declaring.Holding ν → Handed (p.type.Holding ν) → declaring.Holding ν}
  (hp : p.write? = some store)

include hp

/-- A property that can be written has a plan for any receiver or one of the declaring type, and for
any value or one of its own type. -/
theorem plan_setter_eq_ok {I V : TypeTag} (hI : I = .object ∨ I = declaring)
    (hV : V = .any ∨ V = p.type) :
    ∃ plan, (Member.setter p).plan I V .byValue = .ok plan ∧
      (V = .any → assignedCheck plan = .ofType p.type) := by
  have hcheck : (Member.setter p).checkAccessor = .ok () := by
    simp only [Member.checkAccessor, hp, Option.isSome_some, if_true]
  obtain ⟨access, haccess⟩ : ∃ access, (Member.setter p).receiverAccess I = .ok access :=
    (Member.receiverAccess_ok_iff rfl).mpr hI
  by_cases hany : V = .any
  · simp only [Member.plan, hcheck, haccess, Member.exchange, Member.assignedValue, if_pos hany]
    exact ⟨_, rfl, fun _ => rfl⟩
  · simp only [Member.plan, hcheck, haccess, Member.exchange, Member.assignedValue, if_neg hany,
      if_pos (hV.resolve_left hany)]
    exact ⟨_, rfl, fun h => absurd h hany⟩

/-- **The delegate for a datum of the property's type stores it**, on any memory. -/
theorem exists_compileSetterTypedOn_type {μ : Type} (m : Memory μ ν) :
    ∃ d, p.compileSetterTypedOn m declaring p.type = .ok d ∧
      ∀ s x u, d.callOn s x u = (⟨store s x, .ok ()⟩, u) := by
  obtain ⟨plan, hplan, -⟩ := plan_setter_eq_ok hp (V := p.type) (.inr rfl) (.inr rfl)
  refine ⟨⟨plan, fun s x u => (⟨store s x, .ok ()⟩, u)⟩, ?_, fun s x u => rfl⟩
  have htyped : p.writeTyped? declaring p.type = some store := by
    rw [writeTyped?, dif_pos ⟨rfl, rfl⟩]
    exact hp
  rw [compileSetterTypedOn, hplan]
  simp only [htyped]

/-- The delegate for any receiver checks a value and writes it. -/
theorem exists_compileSetterOn {μ : Type} (m : Memory μ ν) :
    ∃ plan write, p.writeErased? m = some write ∧
      p.compileSetterOn m = .ok ⟨plan, writeChecked m (.ofType p.type) write⟩ := by
  obtain ⟨plan, hplan, hcheck⟩ := plan_setter_eq_ok hp (V := .any) (.inl rfl) (.inl rfl)
  obtain ⟨write, hwrite⟩ : ∃ write, p.writeErased? m = some write := by
    rw [writeErased?, writeWidened?, hp]
    exact ⟨_, rfl⟩
  refine ⟨plan, write, hwrite, ?_⟩
  rw [compileSetterOn, hplan]
  simp only [hwrite, hcheck rfl]

end Generic

section Write

variable {store : declaring.Carrier → Handed p.type.Carrier → declaring.Carrier}
  (hp : p.write? = some store)

include hp

/-- **The delegate for any receiver assigns.** -/
theorem assigns_compileSetter :
    ∃ d, p.compileSetter = .ok d ∧ p.Assigns store (.tagged declaring) .ofBind true d.call := by
  obtain ⟨write, hwrite, hstores⟩ := exists_writeErased? hp
  obtain ⟨plan, write', hwrite', hd⟩ := exists_compileSetterOn hp .plain
  obtain rfl : write = write' := Option.some.inj (hwrite.symm.trans hwrite')
  exact ⟨_, hd, assigns_writeChecked hstores⟩

/-- The delegate for a datum of the property's type stores it. -/
theorem exists_compileSetterTyped_type : ∃ d, p.compileSetterTyped declaring p.type = .ok d ∧
    ∀ s x, d.call s x = ⟨store s x, .ok ()⟩ := by
  obtain ⟨d, hd, hcall⟩ := exists_compileSetterTypedOn_type hp .plain
  exact ⟨d, hd, fun s x => congrArg Prod.fst (hcall s x ())⟩

/-- **The delegate for receivers of the declaring type and any value assigns.** -/
theorem assigns_compileSetterTyped_any :
    ∃ d, p.compileSetterTyped declaring .any = .ok d ∧
      p.Assigns store (.bare _) .ofBind true d.call := by
  by_cases hT : p.type = .any
  · -- the value is the datum, and the typed entry goes first
    obtain ⟨name, visibility, type, read?, write?, readable, unseen⟩ := p
    obtain rfl : type = .any := hT
    obtain ⟨d, hd, hcall⟩ := exists_compileSetterTyped_type hp
    exact ⟨d, hd, fun s v => hcall s v⟩
  · obtain ⟨plan, hplan, hcheck⟩ := plan_setter_eq_ok hp (V := .any) (.inr rfl) (.inl rfl)
    obtain ⟨write, hwrite, hstores⟩ := exists_writeWidened? hp
    have htyped : p.writeTyped? declaring .any = none := dif_neg fun h => hT h.2
    have hwidened : p.writeWidenedAt? .plain declaring = some write := by
      rw [writeWidenedAt?, dif_pos rfl]
      exact hwrite
    refine ⟨⟨plan, writeChecked .plain (assignedCheck plan) write⟩, ?_, ?_⟩
    · rw [compileSetterTyped, compileSetterTypedOn, hplan]
      simp only [htyped, hwidened]
      rfl
    · rw [hcheck rfl]
      exact assigns_writeChecked hstores

end Write

/-! ### What the ways to read give -/

variable (p)

theorem gives_readErased? {read : Instance → Unit → Except BindError Value × Unit}
    (h : p.readErased? .plain = some read) (i : Instance) : Gives p.type (read i ()).1 := by
  simp only [readErased?, readWidened?, Option.map_map, Option.map_eq_some_iff] at h
  obtain ⟨typed, -, rfl⟩ := h
  simp only [Function.comp_apply, Memory.plain_ofHolding]
  split
  · rename_i hi
    intro v hv
    cases hv
    exact Value.conforms_ofCarrier p.type _
  · exact gives_error _

theorem gives_get (i : Instance) : Gives p.type (p.get i) := by
  rw [get, getOn]
  cases h : p.readErased? .plain with
  | none => exact gives_error _
  | some read => exact p.gives_readErased? h i

theorem gives_compileGetter {d : GetterDelegate Instance Value} (h : p.compileGetter = .ok d)
    (i : Instance) : Gives p.type (d.call i) := by
  rw [compileGetter, compileGetterOn] at h
  split at h
  · cases h
  split at h
  · cases h
  rename_i read hread
  cases h
  exact (p.gives_readErased? hread i).mapError _

theorem gives_compileGetterTyped_any {T : TypeTag} {d : GetterDelegate T.Carrier Value}
    (h : p.compileGetterTyped T .any = .ok d) (s : T.Carrier) : Gives p.type (d.call s) := by
  rw [compileGetterTyped, compileGetterTypedOn] at h
  split at h
  · cases h
  split at h
  · cases h
  rename_i read hread
  cases h
  intro v hv
  cases hv
  unfold readEntry? at hread
  split at hread
  · rename_i typed htyped
    rw [readTyped?] at htyped
    split at htyped
    · rename_i hTV
      rw [hTV.2]
      trivial
    · cases htyped
  · simp only [dif_pos, readWidenedAt?] at hread
    split at hread
    · rename_i hT
      subst hT
      simp only [readWidened?, Option.map_eq_some_iff] at hread
      obtain ⟨typed, -, rfl⟩ := hread
      simp only [Memory.plain_ofHolding]
      exact Value.conforms_ofCarrier p.type _
    · cases hread

end Property

end LateBinding
