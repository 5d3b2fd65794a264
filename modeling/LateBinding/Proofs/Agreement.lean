import LateBinding.Proofs.Admission
import LateBinding.Cli.Subject

/-!
# Agreement: a property reflectively and through delegates

A property is written by reflection, by the delegate for any receiver, and by the delegates for
receivers of the declaring type that take a boxed value or a datum.  It is read in as many ways.
Each way has an entry point and a conversion of its own.  The ways to read come to the same, and the
ways to write do unless the accessor asks whether anybody else has a handle on the datum: a
reflective write keeps the value until the call is over, and a delegate gives it up.

* `Property.OwnerBlind` — a property whose accessor does not ask, as none of a leaf type can;
* `Property.WrittenAlike` — two writes of a value that end alike, and are the same under that
  condition;
* `Property.assigned`, `Property.writtenAlike_assigned` — what a write comes to, by a way that gives
  the value up and by one that keeps it;
* `Property.exists_compileGetter`, `Property.exists_compileGetterTyped` — what delegates read;
* `Property.WritesAlike`, `Property.ReadsAlike` — the delegates of an accessor, next to the
  reflective access;
* `access_agrees` — both for every property; `access_differs` — an accessor that does ask.
-/

namespace LateBinding

namespace Property

variable {declaring : TypeTag} (p : Property declaring)

/-! ### Whose a datum is -/

/-- A property whose write accessor does the same with a datum whoever else has a handle on it. -/
def OwnerBlind : Prop :=
  ∀ store, p.write? = some store → ∀ s x, store s ⟨x, true⟩ = store s ⟨x, false⟩

/-- **A property of a leaf type is owner-blind**: leaf data are copied. -/
theorem ownerBlind_of_leaf {l : Leaf} (h : p.type = .leaf l) : p.OwnerBlind :=
  fun store hp s x => p.unseen store l hp h s x

/-- Two writes of a value, by a way that gives the value up and by one that keeps it. -/
structure WrittenAlike (i : Instance) (v : Handed Value)
    (reply reply' : Reply DelegateError Instance Unit) : Prop where
  /-- Both succeed, or both fail with one error. -/
  outcome_eq : reply.outcome = reply'.outcome
  /-- Both store the converted datum.  One that is made anew comes by its only handle, and any other
  by the only one if the value was given up that had it. -/
  stored : ∀ store s x, p.write? = some store → i = ⟨declaring, s⟩ →
    v.datum.converted? p.type = some x →
    reply = ⟨⟨declaring, store s ⟨x, v.datum.renewed p.type || v.sole⟩⟩, .ok ()⟩ ∧
    reply' = ⟨⟨declaring, store s ⟨x, v.datum.renewed p.type⟩⟩, .ok ()⟩
  /-- The receiver is left in the same state, if it cannot be told who has a handle on the datum:
  the accessor does not ask, somebody else has one in any case, or a new datum is made in any
  case. -/
  reply_eq : p.OwnerBlind ∨ v.sole = false ∨ v.datum.renewed p.type → reply = reply'
  /-- A failed write changes nothing, one way or the other. -/
  failed_eq : ∀ fault, reply.outcome = .error fault → reply = reply'

variable {p}

/-! ### Writing -/

section Assigns

variable {store : declaring.Carrier → Handed p.type.Carrier → declaring.Carrier}

/-- What is stored is the same whether the value is kept or given up, if it cannot be told who has a
handle on the datum. -/
theorem store_eq (hp : p.write? = some store) {v : Handed Value}
    (h : p.OwnerBlind ∨ v.sole = false ∨ v.datum.renewed p.type) (s : declaring.Carrier)
    (x : p.type.Carrier) :
    store s ⟨x, v.datum.renewed p.type || true && v.sole⟩ =
      store s ⟨x, v.datum.renewed p.type || false && v.sole⟩ := by
  rw [Bool.true_and, Bool.false_and, Bool.or_false]
  rcases h with hblind | hshared | hnew
  · have hsame : ∀ sole, store s ⟨x, sole⟩ = store s ⟨x, false⟩ := by
      intro sole
      cases sole with
      | false => rfl
      | true => exact hblind store hp s x
    exact (hsame _).trans (hsame _).symm
  · rw [hshared, Bool.or_false]
  · rw [hnew, Bool.true_or]

variable (store) in
/-- What a write comes to, by a way that gives the value up or by one that keeps it. -/
def assigned (givenUp : Bool) (i : Instance) (v : Handed Value) :
    Reply DelegateError Instance Unit :=
  match v.datum.converted? p.type with
  | none => .refused i (.ofBind (v.datum.mismatch p.type))
  | some x =>
    match (Packing.tagged declaring).unpack i with
    | .error e => .refused i (.ofBind e)
    | .ok s => ⟨⟨declaring, store s ⟨x, v.datum.renewed p.type || givenUp && v.sole⟩⟩, .ok ()⟩

/-- On a receiver of the declaring type a converted datum is stored. -/
theorem assigned_of_converted? {s : declaring.Carrier} {v : Handed Value} {x : p.type.Carrier}
    (hx : v.datum.converted? p.type = some x) (givenUp : Bool) :
    assigned store givenUp ⟨declaring, s⟩ v =
      ⟨⟨declaring, store s ⟨x, v.datum.renewed p.type || givenUp && v.sole⟩⟩, .ok ()⟩ := by
  have hstate : (Packing.tagged declaring).unpack ⟨declaring, s⟩ = .ok s := dif_pos rfl
  rw [assigned, hx]
  simp only [hstate]

/-- **A way that gives the value up and one that keeps it end alike.** -/
theorem writtenAlike_assigned (hp : p.write? = some store) (i : Instance) (v : Handed Value) :
    p.WrittenAlike i v (assigned store true i v) (assigned store false i v) where
  outcome_eq := by
    rw [assigned, assigned]
    cases v.datum.converted? p.type with
    | none => rfl
    | some x =>
      simp only
      cases (Packing.tagged declaring).unpack i <;> rfl
  stored := by
    rintro store' s x hp' rfl hx
    obtain rfl : store = store' := Option.some.inj (hp.symm.trans hp')
    rw [assigned_of_converted? hx, assigned_of_converted? hx, Bool.true_and, Bool.false_and,
      Bool.or_false]
    exact ⟨rfl, rfl⟩
  reply_eq := by
    intro halike
    rw [assigned, assigned]
    cases v.datum.converted? p.type with
    | none => rfl
    | some x =>
      simp only
      cases (Packing.tagged declaring).unpack i with
      | error e => rfl
      | ok s => simp only [store_eq hp halike s x]
  failed_eq := by
    intro fault
    rw [assigned, assigned]
    cases v.datum.converted? p.type with
    | none => exact fun _ => rfl
    | some x =>
      simp only
      cases (Packing.tagged declaring).unpack i with
      | error e => exact fun _ => rfl
      | ok s => exact fun hfailed => by cases hfailed

/-- A reflective write, as a delegate would end. -/
theorem set_eq_assigned (hp : p.write? = some store) (i : Instance) (v : Handed Value) :
    (p.set i v).mapError .ofBind = assigned store false i v := by
  rw [assigns_set hp, assigned]
  cases v.datum.converted? p.type with
  | none => rfl
  | some x =>
    simp only
    cases (Packing.tagged declaring).unpack i <;> rfl

/-- A write by a way that knows the type of its receivers. -/
theorem Assigns.mapReceiver_eq_assigned {givenUp : Bool}
    {write : declaring.Carrier → Handed Value → Reply DelegateError declaring.Carrier Unit}
    (h : p.Assigns store (.bare _) .ofBind givenUp write) (s : declaring.Carrier)
    (v : Handed Value) :
    (write s v).mapReceiver (Sigma.mk declaring) = assigned store givenUp ⟨declaring, s⟩ v := by
  rw [h]
  cases hx : v.datum.converted? p.type with
  | none =>
    rw [assigned, hx]
    rfl
  | some x =>
    rw [assigned_of_converted? hx]
    rfl

/-- A datum of the property's type is converted to itself. -/
theorem converted?_ofCarrier (hT : p.type ≠ .unit) (x : p.type.Carrier) :
    (Value.ofCarrier p.type x).converted? p.type = some x :=
  Value.converted?_of_fromExact? (Value.fromExact?_ofCarrier hT x)

/-- And no new one is made. -/
theorem renewed_ofCarrier (hT : p.type ≠ .unit) (x : p.type.Carrier) :
    (Value.ofCarrier p.type x).renewed p.type = false := by
  have hexact := Value.fromExact?_ofCarrier hT x
  rw [Value.renewed, Value.retyped?]
  by_cases hany : p.type = .any
  · simp only [retype, if_pos hany]
    rfl
  · obtain ⟨c, hc, htag⟩ := Option.map_eq_some_iff.mp (Value.tag?_of_fromExact? hexact hany)
    simp only [retype, if_neg hany, hc, if_pos htag]
    rfl

theorem ne_unit_of_write? (h : p.write?.isSome) : p.type ≠ .unit := by
  intro hT
  have hreadable := p.readable h
  rw [hT] at hreadable
  cases hreadable

/-- A datum that is stored is what its value comes to. -/
theorem stored_eq_assigned (hp : p.write? = some store) (s : declaring.Carrier)
    (x : Handed p.type.Carrier) :
    (⟨⟨declaring, store s x⟩, .ok ()⟩ : Reply DelegateError Instance Unit) =
      assigned store true ⟨declaring, s⟩ ⟨Value.ofCarrier p.type x.datum, x.sole⟩ := by
  have hT : p.type ≠ .unit := ne_unit_of_write? (by rw [hp]; rfl)
  rw [assigned_of_converted? (converted?_ofCarrier hT x.datum), renewed_ofCarrier hT,
    Bool.false_or, Bool.true_and]

end Assigns

variable (p)

/-- Writing a property by delegates, next to writing it reflectively. -/
structure WritesAlike : Prop where
  untyped : ∃ d, p.compileSetter = .ok d ∧
    ∀ i v, p.WrittenAlike i v (d.call i v) ((p.set i v).mapError .ofBind)
  /-- With `V` the type of all values the delegate takes a boxed value, otherwise a datum of the
  property's type. -/
  typed : ∀ V, V = .any ∨ V = p.type → ∃ d, p.compileSetterTyped declaring V = .ok d ∧
    ∀ s x, p.WrittenAlike ⟨declaring, s⟩ ⟨Value.ofCarrier V x.datum, x.sole⟩
      ((d.call s x).mapReceiver (Sigma.mk declaring))
      ((p.set ⟨declaring, s⟩ ⟨Value.ofCarrier V x.datum, x.sole⟩).mapError .ofBind)
  /-- A value that does not convert is reported, on whatever receiver. -/
  mismatch : ∀ i v, v.datum.coerce p.type = none →
    p.set i v = .refused i (v.datum.mismatch p.type)
  /-- A foreign receiver is reported when the value converts. -/
  foreign : ∀ i v, (v.datum.coerce p.type).isSome → i.1 ≠ declaring →
    p.set i v = .refused i (i.mismatch declaring)
  /-- Nothing else is refused. -/
  done : ∀ s v, (v.datum.coerce p.type).isSome →
    ∃ s', p.set ⟨declaring, s⟩ v = ⟨⟨declaring, s'⟩, .ok ()⟩
  /-- A failed write leaves the receiver as it was. -/
  keeps : ∀ i v fault, (p.set i v).outcome = .error fault → (p.set i v).receiver = i

variable {p}

/-- The ways to write, on a receiver of the declaring type. -/
theorem alike_of_assigns {store : declaring.Carrier → Handed p.type.Carrier → declaring.Carrier}
    (hp : p.write? = some store)
    {write' : declaring.Carrier → Handed Value → Reply DelegateError declaring.Carrier Unit}
    (h : p.Assigns store (.bare _) .ofBind true write') (s : declaring.Carrier)
    (v : Handed Value) :
    p.WrittenAlike ⟨declaring, s⟩ v ((write' s v).mapReceiver (Sigma.mk declaring))
      ((p.set ⟨declaring, s⟩ v).mapError .ofBind) := by
  rw [h.mapReceiver_eq_assigned, set_eq_assigned hp]
  exact writtenAlike_assigned hp _ v

/-- A delegate that takes a datum stores it, as a reflective write does with the boxed datum. -/
theorem alike_of_stores {store : declaring.Carrier → Handed p.type.Carrier → declaring.Carrier}
    (hp : p.write? = some store) (s : declaring.Carrier) (x : Handed p.type.Carrier) :
    p.WrittenAlike ⟨declaring, s⟩ ⟨Value.ofCarrier p.type x.datum, x.sole⟩
      ⟨⟨declaring, store s x⟩, .ok ()⟩
      ((p.set ⟨declaring, s⟩ ⟨Value.ofCarrier p.type x.datum, x.sole⟩).mapError .ofBind) := by
  rw [stored_eq_assigned hp, set_eq_assigned hp]
  exact writtenAlike_assigned hp _ _

theorem writesAlike {store : declaring.Carrier → Handed p.type.Carrier → declaring.Carrier}
    (hp : p.write? = some store) : p.WritesAlike := by
  have hset := p.assigns_set hp
  have hconverts : ∀ {v : Handed Value}, (v.datum.coerce p.type).isSome →
      ∃ x, v.datum.converted? p.type = some x := by
    intro v hv
    rw [← Option.ne_none_iff_exists', ne_eq, Value.converted?_eq_none_iff]
    exact Option.isSome_iff_ne_none.mp hv
  refine ⟨?_, ?_, ?_, ?_, ?_, ?_⟩
  · obtain ⟨d, hd, hcall⟩ := assigns_compileSetter hp
    refine ⟨d, hd, fun i v => ?_⟩
    rw [show d.call i v = assigned store true i v from hcall i v, set_eq_assigned hp]
    exact writtenAlike_assigned hp i v
  · intro V hV
    by_cases hany : V = .any
    · subst hany
      obtain ⟨d, hd, hcall⟩ := assigns_compileSetterTyped_any hp
      exact ⟨d, hd, alike_of_assigns hp hcall⟩
    · obtain rfl := hV.resolve_left hany
      obtain ⟨d, hd, hcall⟩ := exists_compileSetterTyped_type hp
      refine ⟨d, hd, fun s x => ?_⟩
      rw [hcall]
      exact alike_of_stores hp s x
  · intro i v hv
    rw [hset, Value.converted?_eq_none_iff.mpr hv]
    rfl
  · intro i v hv hi
    obtain ⟨x, hx⟩ := hconverts hv
    have hrefused : (Packing.tagged declaring).unpack i = .error (i.mismatch declaring) :=
      dif_neg hi
    rw [hset, hx]
    simp only [hrefused]
    rfl
  · intro s v hv
    obtain ⟨x, hx⟩ := hconverts hv
    have hstate : (Packing.tagged declaring).unpack ⟨declaring, s⟩ = .ok s := dif_pos rfl
    refine ⟨store s ⟨x, v.datum.renewed p.type || false && v.sole⟩, ?_⟩
    rw [hset, hx]
    simp only [hstate]
    rfl
  · intro i v fault
    rw [hset]
    cases v.datum.converted? p.type with
    | none => exact fun _ => rfl
    | some x =>
      simp only
      cases (Packing.tagged declaring).unpack i with
      | error e => exact fun _ => rfl
      | ok s => exact fun h => by cases h

/-! ### Reading -/

section Generic

variable {μ ν : Type} {p : Property declaring ν} {load : declaring.Holding ν → p.type.Holding ν}
  (hp : p.read? = some load) (m : Memory μ ν)

include hp

/-- **The delegate for any receiver reads as reflection does**, on any memory. -/
theorem exists_compileGetterOn : ∃ d, p.compileGetterOn m = .ok d ∧
    ∀ i u, d.callOn i u = ((p.getOn m i u).1.mapError .ofBind, (p.getOn m i u).2) := by
  have hread : p.read?.isSome := by rw [hp]; rfl
  obtain ⟨plan, hplan⟩ : ∃ plan, (Member.getter p).plan .object .any .byValue = .ok plan :=
    p.plan_getter_ok_iff.mpr ⟨hread, .inl rfl, .inl rfl⟩
  obtain ⟨read, herased⟩ := Option.isSome_iff_exists.mp ((p.readErased?_isSome_iff m).mpr hread)
  refine ⟨⟨plan, fun i u => ((read i u).1.mapError .ofBind, (read i u).2)⟩, ?_, fun i u => ?_⟩
  · rw [compileGetterOn, hplan]
    simp only [herased]
  · rw [getOn, herased]

/-- The delegate for the property's type gives the datum. -/
theorem exists_compileGetterTypedOn_type : ∃ d, p.compileGetterTypedOn m declaring p.type = .ok d ∧
    ∀ s u, d.callOn s u = (.ok (load s), u) := by
  have hread : p.read?.isSome := by rw [hp]; rfl
  obtain ⟨plan, hplan⟩ : ∃ plan, (Member.getter p).plan declaring p.type .byValue = .ok plan :=
    p.plan_getter_ok_iff.mpr ⟨hread, .inr rfl, .inr rfl⟩
  have htyped : p.readTyped? declaring p.type = some load := by
    rw [readTyped?, dif_pos ⟨rfl, rfl⟩]
    exact hp
  have hentry : p.readEntry? m declaring p.type = some fun s u => (load s, u) := by
    unfold readEntry?
    rw [htyped]
  refine ⟨⟨plan, fun s u => (.ok (load s), u)⟩, ?_, fun s u => rfl⟩
  rw [compileGetterTypedOn, hplan]
  simp only [hentry]

/-- The delegate for a boxed value boxes it. -/
theorem exists_compileGetterTypedOn_any (hT : p.type ≠ .any) :
    ∃ d, p.compileGetterTypedOn m declaring .any = .ok d ∧
      ∀ s u, d.callOn s u =
        (.ok (m.ofHolding u p.type (load s)).1, (m.ofHolding u p.type (load s)).2) := by
  have hread : p.read?.isSome := by rw [hp]; rfl
  obtain ⟨plan, hplan⟩ : ∃ plan, (Member.getter p).plan declaring .any .byValue = .ok plan :=
    p.plan_getter_ok_iff.mpr ⟨hread, .inr rfl, .inl rfl⟩
  have htyped : p.readTyped? declaring .any = none := dif_neg fun h => hT h.2
  have hentry : p.readEntry? m declaring .any =
      some fun s u => m.ofHolding u p.type (load s) := by
    unfold readEntry?
    rw [htyped]
    simp only [dif_pos, readWidenedAt?, readWidened?, hp]
    rfl
  refine ⟨⟨plan, fun s u => (.ok (m.ofHolding u p.type (load s)).1,
    (m.ofHolding u p.type (load s)).2)⟩, ?_, fun s u => rfl⟩
  rw [compileGetterTypedOn, hplan]
  simp only [hentry]

end Generic

section Read

variable {load : declaring.Carrier → p.type.Carrier} (hp : p.read? = some load)

include hp

theorem get_mk (s : declaring.Carrier) :
    p.get ⟨declaring, s⟩ = .ok (Value.ofCarrier p.type (load s)) := by
  rw [get, getOn, readErased?, readWidened?, hp]
  simp only [Option.map_some, dif_pos, Memory.plain_ofHolding]

theorem get_foreign {i : Instance} (hi : i.1 ≠ declaring) :
    p.get i = .error (i.mismatch declaring) := by
  rw [get, getOn, readErased?, readWidened?, hp]
  simp only [Option.map_some, dif_neg hi]

theorem exists_compileGetter :
    ∃ d, p.compileGetter = .ok d ∧ ∀ i, d.call i = (p.get i).mapError .ofBind := by
  obtain ⟨d, hd, hcall⟩ := exists_compileGetterOn hp .plain
  exact ⟨d, hd, fun i => congrArg Prod.fst (hcall i ())⟩

/-- A delegate for receivers of the declaring type reads without fail. -/
theorem exists_compileGetterTyped {V : TypeTag} (hV : V = .any ∨ V = p.type) :
    ∃ d, p.compileGetterTyped declaring V = .ok d ∧ ∀ s, ∃ x, d.call s = .ok x ∧
      Value.ofCarrier V x = Value.ofCarrier p.type (load s) := by
  by_cases hT : V = p.type
  · subst hT
    obtain ⟨d, hd, hcall⟩ := exists_compileGetterTypedOn_type hp .plain
    exact ⟨d, hd, fun s => ⟨load s, congrArg Prod.fst (hcall s ()), rfl⟩⟩
  · obtain rfl := hV.resolve_right hT
    obtain ⟨d, hd, hcall⟩ := exists_compileGetterTypedOn_any hp .plain (Ne.symm hT)
    refine ⟨d, hd, fun s => ⟨Value.ofCarrier p.type (load s), ?_, rfl⟩⟩
    have hread := congrArg Prod.fst (hcall s ())
    rw [Memory.plain_ofHolding] at hread
    exact hread

end Read

/-- Reading a property by delegates is reading it reflectively. -/
structure ReadsAlike (p : Property declaring) : Prop where
  untyped : ∃ d, p.compileGetter = .ok d ∧ ∀ i, d.call i = (p.get i).mapError .ofBind
  /-- With `V` the type of all values the delegate gives a boxed value, otherwise a datum of the
  property's type. -/
  typed : ∀ V, V = .any ∨ V = p.type → ∃ d, p.compileGetterTyped declaring V = .ok d ∧
    ∀ s, (d.call s).map (Value.ofCarrier V) = (p.get ⟨declaring, s⟩).mapError .ofBind
  done : ∀ s, ∃ v, p.get ⟨declaring, s⟩ = .ok v
  foreign : ∀ i, i.1 ≠ declaring → p.get i = .error (i.mismatch declaring)

theorem readsAlike {load : declaring.Carrier → p.type.Carrier} (hp : p.read? = some load) :
    p.ReadsAlike where
  untyped := exists_compileGetter hp
  typed := by
    intro V hV
    obtain ⟨d, hd, hcall⟩ := exists_compileGetterTyped hp hV
    refine ⟨d, hd, fun s => ?_⟩
    obtain ⟨x, hx, hbox⟩ := hcall s
    rw [hx, get_mk hp]
    exact congrArg Except.ok hbox
  done s := ⟨_, get_mk hp s⟩
  foreign _ hi := get_foreign hp hi

end Property

/-- **A property is the same by reflection and by delegates**, up to the handles that a write
accessor can ask about.  If it can be written, its delegates compile and end as a reflective write
does: a value that does not convert is reported before a foreign receiver is, and a failed write
changes nothing.  They leave the receiver as a reflective write does unless the accessor asks
whether anybody else has a handle on the datum, which none of a leaf type can.  If it can be read,
its delegates compile and give what a reflective read gives. -/
theorem access_agrees {declaring : TypeTag} (p : Property declaring) :
    (p.write?.isSome → p.WritesAlike) ∧ ((∃ l, p.type = .leaf l) → p.OwnerBlind) ∧
      (p.read?.isSome → p.ReadsAlike) := by
  refine ⟨?_, ?_, ?_⟩
  · intro hwrite
    obtain ⟨store, hp⟩ := Option.isSome_iff_exists.mp hwrite
    exact Property.writesAlike hp
  · rintro ⟨l, hl⟩
    exact p.ownerBlind_of_leaf hl
  · intro hread
    obtain ⟨load, hp⟩ := Option.isSome_iff_exists.mp hread
    exact Property.readsAlike hp

/-- The label of a subject: a literal is widened, of a truth value for a foreign receiver the truth
value is reported, and the label is read as it was left. -/
theorem access_agrees_label :
    Subject.labelProperty.write?.isSome ∧ Subject.labelProperty.read?.isSome ∧
    (∃ d, Subject.labelProperty.compileSetter = .ok d ∧
      d.call ⟨Subject.type, Subject.make "x"⟩ ⟨.boxed (.leaf .literal "a"), true⟩ =
        ⟨⟨Subject.type, Subject.make "a"⟩, .ok ()⟩ ∧
      d.call ⟨.text, "x"⟩ ⟨.boxed (.leaf .bool true), true⟩ =
        .refused ⟨.text, "x"⟩ (.typeMismatch "String" "bool") ∧
      d.call ⟨.text, "x"⟩ ⟨.text "a", true⟩ =
        .refused ⟨.text, "x"⟩ (.typeMismatch "Sample" "String")) ∧
    ∃ d, Subject.labelProperty.compileGetterTyped Subject.type .any = .ok d ∧
      d.call (Subject.make "a") = .ok (.text "a") := by
  obtain ⟨hwrites, hblind, hreads⟩ := access_agrees Subject.labelProperty
  obtain ⟨setter, hsetter, hset⟩ := (hwrites rfl).untyped
  obtain ⟨getter, hgetter, hget⟩ := (hreads rfl).typed .any (.inl rfl)
  have hcalls : ∀ i v, setter.call i v = (Subject.labelProperty.set i v).mapError .ofBind :=
    fun i v => (hset i v).reply_eq (.inl (hblind ⟨.text, rfl⟩))
  refine ⟨rfl, rfl, ⟨setter, hsetter, ?_, ?_, ?_⟩, getter, hgetter, ?_⟩
  · rw [hcalls]
    rfl
  · rw [hcalls, (hwrites rfl).mismatch _ _ rfl]
    rfl
  · rw [hcalls, (hwrites rfl).foreign _ _ rfl (by decide)]
    rfl
  · have hread := hget (Subject.make "a")
    cases hcall : getter.call (Subject.make "a") with
    | error e =>
      rw [hcall] at hread
      cases hread
    | ok v =>
      rw [hcall] at hread
      cases hread
      rfl

/-- A property that takes any value.  Its accessor writes a mark behind a text, in place, if nobody
else has a handle on the text. -/
def markedProperty : Property Subject.type where
  name := "marked"
  visibility := .exposed
  type := .any
  read? := some fun s => .text (Subject.label s)
  write? := some fun s v =>
    match v.datum.downcast? .text with
    | some text => Subject.make (if v.sole then text ++ "!" else text)
    | none => s
  readable := fun _ => rfl
  unseen := nofun

/-- **An accessor that asks can tell a reflective write from a delegate.**  A text that is given up
is marked by the delegate; the reflective write keeps it until the call is over, and there it is
not. -/
theorem access_differs :
    (∃ d, markedProperty.compileSetter = .ok d ∧
      d.call ⟨Subject.type, Subject.make "x"⟩ ⟨.text "a", true⟩ =
        ⟨⟨Subject.type, Subject.make "a!"⟩, .ok ()⟩) ∧
    markedProperty.set ⟨Subject.type, Subject.make "x"⟩ ⟨.text "a", true⟩ =
      ⟨⟨Subject.type, Subject.make "a"⟩, .ok ()⟩ ∧
    ¬ ∃ d, markedProperty.compileSetter = .ok d ∧
      ∀ i v, d.call i v = (markedProperty.set i v).mapError .ofBind := by
  obtain ⟨d, hd, hassigns⟩ := Property.assigns_compileSetter (p := markedProperty) rfl
  have hcall : d.call ⟨Subject.type, Subject.make "x"⟩ ⟨.text "a", true⟩ =
      ⟨⟨Subject.type, Subject.make "a!"⟩, .ok ()⟩ := hassigns _ _
  have hset : markedProperty.set ⟨Subject.type, Subject.make "x"⟩ ⟨.text "a", true⟩ =
      ⟨⟨Subject.type, Subject.make "a"⟩, .ok ()⟩ := rfl
  refine ⟨⟨d, hd, hcall⟩, hset, ?_⟩
  rintro ⟨d', hd', hsame⟩
  obtain rfl : d = d' := Except.ok.inj (hd.symm.trans hd')
  have hreplies := hsame ⟨Subject.type, Subject.make "x"⟩ ⟨.text "a", true⟩
  rw [hcall, hset] at hreplies
  have hreceivers : (⟨Subject.type, Subject.make "a!"⟩ : Instance) =
      ⟨Subject.type, Subject.make "a"⟩ := congrArg Reply.receiver hreplies
  have hstates : Subject.make "a!" = Subject.make "a" := eq_of_heq (Sigma.mk.inj hreceivers).2
  have hlabels : "a!" = "a" := congrArg Subject.label hstates
  exact absurd hlabels (by decide)

end LateBinding
