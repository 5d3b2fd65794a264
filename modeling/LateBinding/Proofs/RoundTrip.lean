import LateBinding.Proofs.Agreement
import LateBinding.Samples.Properties
import LateBinding.Store

/-!
# Round trip: what was written to a property is read back

A property whose accessors belong together, `load (store s x) = x`, gives back what was written to
it, converted to its type, by whichever of the ways it is written and read.

* `AccessWay`, `Property.writeOn`, `Property.readOn` — the four ways to write and the four to read,
  on a memory; `Property.writeBy`, `Property.readBy` — the same on plain values;
* `Property.writeBy_eq`, `Property.readBy_eq` — what each of them comes to;
* `Property.ReadsBack` — what is read after a write, next to what was read before;
* `Property.writeOn_any`, `Property.readOn_any` — on a property of the type of all values no way
  makes a new datum;
* `read_after_write` — all of it together.
-/

namespace LateBinding

/-- The ways to an accessor: by reflection, by the delegate for any receiver, and by the delegates
for receivers of the declaring type, with a boxed value or with a datum of the property's type. -/
inductive AccessWay where
  | reflective
  | untyped
  | instanceTyped
  | typed
  deriving DecidableEq, Repr

namespace Property

variable {declaring : TypeTag}

/-! ### The ways to write and to read -/

section Ways

variable {μ ν : Type} (p : Property declaring ν) (m : Memory μ ν)

/-- Write a value.  The typed way takes the datum of a value of the property's type, and exists for
no other value. -/
def writeOn (w : AccessWay) (s : declaring.Holding ν) (v : Handed ν) (u : μ) :
    Option (Reply DelegateError (InstanceOn ν) Unit × μ) :=
  match w with
  | .reflective =>
    let (reply, u) := p.setOn m ⟨declaring, s⟩ v u
    some (reply.mapError .ofBind, u)
  | .untyped => (p.compileSetterOn m).toOption.map fun d => d.callOn ⟨declaring, s⟩ v u
  | .instanceTyped =>
    (p.compileSetterTypedOn m declaring .any).toOption.map fun d =>
      let (reply, u) := d.callOn s v u
      (reply.mapReceiver (Sigma.mk declaring), u)
  | .typed =>
    (p.compileSetterTypedOn m declaring p.type).toOption.bind fun d =>
      (m.take u p.type v.datum).map fun x =>
        let (reply, u) := d.callOn s ⟨x, v.sole⟩ u
        (reply.mapReceiver (Sigma.mk declaring), u)

/-- Read the value, boxed. -/
def readOn (r : AccessWay) (s : declaring.Holding ν) (u : μ) :
    Option (Except DelegateError ν × μ) :=
  match r with
  | .reflective =>
    let (outcome, u) := p.getOn m ⟨declaring, s⟩ u
    some (outcome.mapError .ofBind, u)
  | .untyped => (p.compileGetterOn m).toOption.map fun d => d.callOn ⟨declaring, s⟩ u
  | .instanceTyped =>
    (p.compileGetterTypedOn m declaring .any).toOption.map fun d => d.callOn s u
  | .typed =>
    (p.compileGetterTypedOn m declaring p.type).toOption.map fun d =>
      match d.callOn s u with
      | (.error e, u) => (.error e, u)
      | (.ok x, u) =>
        let (v, u) := m.ofHolding u p.type x
        (.ok v, u)

end Ways

section Plain

variable (p : Property declaring)

/-- Write a plain value. -/
def writeBy (w : AccessWay) (s : declaring.Carrier) (v : Handed Value) :
    Option (Reply DelegateError Instance Unit) := (p.writeOn .plain w s v ()).map Prod.fst

/-- Read a plain value. -/
def readBy (r : AccessWay) (s : declaring.Carrier) : Option (Except DelegateError Value) :=
  (p.readOn .plain r s ()).map Prod.fst

end Plain

/-! ### On plain values -/

section Plain

variable {p : Property declaring}
  {store : declaring.Carrier → Handed p.type.Carrier → declaring.Carrier}
  {load : declaring.Carrier → p.type.Carrier}

/-- **Every way to write converts the value and stores it**, the delegates giving the value up.  The
typed way gets a value of the property's type only. -/
theorem writeBy_eq (hp : p.write? = some store) {w : AccessWay} {v : Handed Value}
    (hw : w = .typed → (v.datum.fromExact? p.type).isSome) (s : declaring.Carrier) :
    ∃ givenUp, p.writeBy w s v = some (assigned store givenUp ⟨declaring, s⟩ v) := by
  cases w with
  | reflective => exact ⟨false, congrArg some (set_eq_assigned hp ⟨declaring, s⟩ v)⟩
  | untyped =>
    obtain ⟨d, hd, hcall⟩ := assigns_compileSetter hp
    refine ⟨true, ?_⟩
    have hwritten : p.writeBy .untyped s v = some (d.call ⟨declaring, s⟩ v) := by
      rw [writeBy, writeOn, show p.compileSetterOn .plain = .ok d from hd]
      rfl
    exact hwritten.trans (congrArg some (hcall ⟨declaring, s⟩ v))
  | instanceTyped =>
    obtain ⟨d, hd, hcall⟩ := assigns_compileSetterTyped_any hp
    refine ⟨true, ?_⟩
    have hwritten : p.writeBy .instanceTyped s v =
        some ((d.call s v).mapReceiver (Sigma.mk declaring)) := by
      rw [writeBy, writeOn, show p.compileSetterTypedOn .plain declaring .any = .ok d from hd]
      rfl
    rw [hwritten, hcall.mapReceiver_eq_assigned]
  | typed =>
    obtain ⟨x, hx⟩ := Option.isSome_iff_exists.mp (hw rfl)
    obtain ⟨d, hd, hcall⟩ := exists_compileSetterTypedOn_type hp .plain
    have hv : Value.ofCarrier p.type x = v.datum := Value.ofCarrier_of_fromExact? hx
    have hwritten : p.writeBy .typed s v =
        some ((d.callOn s ⟨x, v.sole⟩ ()).1.mapReceiver (Sigma.mk declaring)) := by
      rw [writeBy, writeOn, hd, Memory.plain_take, hx]
      rfl
    have hstored := stored_eq_assigned hp s ⟨x, v.sole⟩
    rw [hv] at hstored
    refine ⟨true, ?_⟩
    rw [hwritten, hcall]
    exact congrArg some hstored

/-- **Every way to read gives the value of the instance.** -/
theorem readBy_eq (hp : p.read? = some load) (r : AccessWay) (s : declaring.Carrier) :
    p.readBy r s = some (.ok (Value.ofCarrier p.type (load s))) := by
  have hget : (p.get ⟨declaring, s⟩).mapError DelegateError.ofBind =
      .ok (Value.ofCarrier p.type (load s)) := by
    rw [get_mk hp]
    rfl
  cases r with
  | reflective => exact congrArg some hget
  | untyped =>
    obtain ⟨d, hd, hcall⟩ := exists_compileGetter hp
    have hread : p.readBy .untyped s = some (d.call ⟨declaring, s⟩) := by
      rw [readBy, readOn, show p.compileGetterOn .plain = .ok d from hd]
      rfl
    rw [hread, hcall, hget]
  | instanceTyped =>
    obtain ⟨d, hd, hcall⟩ := exists_compileGetterTyped hp (.inl rfl)
    obtain ⟨v, hv, hbox⟩ := hcall s
    have hread : p.readBy .instanceTyped s = some (d.call s) := by
      rw [readBy, readOn, show p.compileGetterTypedOn .plain declaring .any = .ok d from hd]
      rfl
    rw [hread, hv]
    exact congrArg (fun v => some (Except.ok v)) hbox
  | typed =>
    obtain ⟨d, hd, hcall⟩ := exists_compileGetterTypedOn_type hp .plain
    rw [readBy, readOn, hd]
    simp only [Except.toOption, Option.map_some, hcall, Memory.plain_ofHolding]

/-- What is read after writing `v`, next to what was read before.  The write succeeds if the value
converts; the converted value is read then, and what was read before otherwise. -/
structure ReadsBack (p : Property declaring) (v : Value)
    (reply : Reply DelegateError Instance Unit) (before after : Value) : Prop where
  done_iff : reply.outcome = .ok () ↔ (v.coerce p.type).isSome
  written : reply.outcome = .ok () → v.coerce p.type = some after
  kept : ∀ fault, reply.outcome = .error fault → after = before

theorem readsBack (hstore : p.write? = some store) (hload : p.read? = some load)
    (law : ∀ s x, load (store s x) = x.datum) {w : AccessWay} {v : Handed Value}
    (hw : w = .typed → (v.datum.fromExact? p.type).isSome) (r : AccessWay) (s : declaring.Carrier) :
    ∃ reply s' before after, p.writeBy w s v = some reply ∧ reply.receiver = ⟨declaring, s'⟩ ∧
      p.readBy r s = some (.ok before) ∧ p.readBy r s' = some (.ok after) ∧
      p.ReadsBack v.datum reply before after := by
  obtain ⟨givenUp, hwrite⟩ := writeBy_eq hstore hw s
  rw [hwrite]
  cases hv : v.datum.converted? p.type with
  | none =>
    have hcoerce : v.datum.coerce p.type = none := Value.converted?_eq_none_iff.mp hv
    rw [assigned, hv]
    refine ⟨_, s, _, _, rfl, rfl, readBy_eq hload r s, readBy_eq hload r s, ?_⟩
    refine ⟨?_, (fun h => by cases h), fun _ _ => rfl⟩
    rw [hcoerce]
    exact iff_of_false (fun h => by cases h) (fun h => by cases h)
  | some x =>
    have hcoerce : v.datum.coerce p.type = some (Value.ofCarrier p.type x) :=
      Value.coerce_of_converted? hv
    rw [assigned_of_converted? hv]
    refine ⟨_, store s _, _, _, rfl, rfl, readBy_eq hload r s, readBy_eq hload r _, ?_⟩
    rw [law]
    refine ⟨?_, fun _ => hcoerce, fun _ h => by cases h⟩
    rw [hcoerce]
    exact iff_of_true rfl rfl

end Plain

/-! ### The type of all values -/

section Any

variable {μ ν : Type} (m : Memory μ ν) {p : Property declaring ν} (hT : p.type = .any)

/-- A value as a datum of the property. -/
def asDatum (v : ν) : p.type.Holding ν := hT ▸ v

section Write

variable {store : declaring.Holding ν → Handed (p.type.Holding ν) → declaring.Holding ν}
  (hp : p.write? = some store)

include hp

theorem exists_compileSetterTypedOn_any :
    ∃ d, p.compileSetterTypedOn m declaring .any = .ok d ∧ ∀ s v u,
      d.callOn s v u = (⟨store s ⟨asDatum hT v.datum, v.sole⟩, .ok ()⟩, u) := by
  obtain ⟨name, visibility, type, read?, write?, readable, unseen⟩ := p
  obtain rfl : type = .any := hT
  exact exists_compileSetterTypedOn_type hp m

/-- A value is stored by the handle it comes by. -/
theorem writeErased?_any : ∃ write, p.writeErased? m = some write ∧ ∀ s v u,
    write ⟨declaring, s⟩ v u =
      ⟨⟨declaring, store s ⟨asDatum hT v.datum, v.sole⟩⟩, .ok ()⟩ := by
  obtain ⟨name, visibility, type, read?, write?, readable, unseen⟩ := p
  obtain rfl : type = .any := hT
  rw [writeErased?, writeWidened?, hp]
  refine ⟨_, rfl, fun s v u => ?_⟩
  simp only [dif_pos]
  rfl

/-- **No way to write makes a new datum.** -/
theorem writeOn_any (w : AccessWay) (s : declaring.Holding ν) (v : Handed ν) (u : μ) :
    ∃ sole, p.writeOn m w s v u =
      some (⟨⟨declaring, store s ⟨asDatum hT v.datum, sole⟩⟩, .ok ()⟩, u) := by
  cases w with
  | reflective =>
    obtain ⟨write, hwrite, hcall⟩ := writeErased?_any m hT hp
    have hcoerce : m.coerce p.type v.datum u = some (⟨v.datum, false⟩, u) := by
      simp only [Memory.coerce, retype, if_pos hT]
      rfl
    refine ⟨false, ?_⟩
    simp only [writeOn, setOn, hwrite, hcoerce, hcall]
    rfl
  | untyped =>
    obtain ⟨write, hwrite, hcall⟩ := writeErased?_any m hT hp
    obtain ⟨plan, write', hwrite', hd⟩ := exists_compileSetterOn hp m
    obtain rfl : write = write' := Option.some.inj (hwrite.symm.trans hwrite')
    have hcheck : Check.ofType p.type = .passthrough := if_pos hT
    refine ⟨v.sole, ?_⟩
    rw [writeOn, hd, hcheck]
    show some (writeChecked m .passthrough write ⟨declaring, s⟩ v u) = _
    simp only [writeChecked, Check.retypeOwned, Retyped.settle, hcall]
    rfl
  | instanceTyped =>
    obtain ⟨d, hd, hcall⟩ := exists_compileSetterTypedOn_any m hT hp
    refine ⟨v.sole, ?_⟩
    rw [writeOn, hd]
    simp only [Except.toOption, Option.map_some, hcall]
    rfl
  | typed =>
    obtain ⟨d, hd, hcall⟩ := exists_compileSetterTypedOn_type hp m
    have htake : m.take u p.type v.datum = some (asDatum hT v.datum) := by
      obtain ⟨name, visibility, type, read?, write?, readable, unseen⟩ := p
      obtain rfl : type = .any := hT
      rfl
    refine ⟨v.sole, ?_⟩
    rw [writeOn, hd, htake]
    simp only [Except.toOption, Option.bind_some, Option.map_some, hcall]
    rfl

end Write

section Read

variable {load : declaring.Holding ν → p.type.Holding ν} (hp : p.read? = some load)

include hp

theorem exists_compileGetterTypedOn_any_self {s : declaring.Holding ν} {v : ν}
    (hv : load s = asDatum hT v) : ∃ d, p.compileGetterTypedOn m declaring .any = .ok d ∧
      ∀ u, d.callOn s u = (.ok v, u) := by
  obtain ⟨name, visibility, type, read?, write?, readable, unseen⟩ := p
  obtain rfl : type = .any := hT
  obtain ⟨d, hd, hcall⟩ := exists_compileGetterTypedOn_type hp m
  refine ⟨d, hd, fun u => (hcall s u).trans ?_⟩
  rw [hv]
  rfl

/-- **No way to read makes a new datum.** -/
theorem readOn_any (r : AccessWay) {s : declaring.Holding ν} {v : ν} (hv : load s = asDatum hT v)
    (u : μ) : p.readOn m r s u = some (.ok v, u) := by
  have hbox : m.ofHolding u p.type (load s) = (v, u) := by
    rw [hv]
    obtain ⟨name, visibility, type, read?, write?, readable, unseen⟩ := p
    obtain rfl : type = .any := hT
    rfl
  have hget : p.getOn m ⟨declaring, s⟩ u = (.ok v, u) := by
    rw [getOn, readErased?, readWidened?, hp]
    simp only [Option.map_some, dif_pos, hbox]
  cases r with
  | reflective =>
    rw [readOn, hget]
    rfl
  | untyped =>
    obtain ⟨d, hd, hcall⟩ := exists_compileGetterOn hp m
    rw [readOn, hd]
    simp only [Except.toOption, Option.map_some, hcall, hget]
    rfl
  | instanceTyped =>
    obtain ⟨d, hd, hcall⟩ := exists_compileGetterTypedOn_any_self m hT hp hv
    rw [readOn, hd]
    simp only [Except.toOption, Option.map_some, hcall]
  | typed =>
    obtain ⟨d, hd, hcall⟩ := exists_compileGetterTypedOn_type hp m
    rw [readOn, hd]
    simp only [Except.toOption, Option.map_some, hcall, hbox]

end Read

include hT in
/-- **A property of the type of all values hands back the handle it was given**, whichever way it is
written and read. -/
theorem readOn_of_writeOn
    {store : declaring.Holding ν → Handed (p.type.Holding ν) → declaring.Holding ν}
    {load : declaring.Holding ν → p.type.Holding ν} (hstore : p.write? = some store)
    (hload : p.read? = some load) (law : ∀ s x, load (store s x) = x.datum) (w r : AccessWay)
    (s : declaring.Holding ν) (v : Handed ν) (u : μ) :
    ∃ s', p.writeOn m w s v u = some (⟨⟨declaring, s'⟩, .ok ()⟩, u) ∧
      p.readOn m r s' u = some (.ok v.datum, u) := by
  obtain ⟨sole, hwrite⟩ := writeOn_any m hT hstore w s v u
  exact ⟨_, hwrite, readOn_any m hT hload r (law s _) u⟩

end Any

end Property

/-- **What was written to a property is read back**, whichever way it is written and whichever way
it is read, if its accessors belong together.  After a write that succeeds the value is read,
coerced to the property's type; after one that fails, what was read before.

Where the property is of the type of all values, the value itself is kept.  This is said of a
property whose data hold handles: on any memory, a store of shared data among them, the handle that
was written is read back, and nothing is boxed. -/
theorem read_after_write (declaring : TypeTag) :
    (∀ (p : Property declaring)
      (store : declaring.Carrier → Handed p.type.Carrier → declaring.Carrier)
      (load : declaring.Carrier → p.type.Carrier), p.write? = some store → p.read? = some load →
      (∀ s x, load (store s x) = x.datum) →
      ∀ (w r : AccessWay) (s : declaring.Carrier) (v : Handed Value),
        (w = .typed → (v.datum.fromExact? p.type).isSome) →
        ∃ reply s' before after, p.writeBy w s v = some reply ∧
          reply.receiver = ⟨declaring, s'⟩ ∧ p.readBy r s = some (.ok before) ∧
          p.readBy r s' = some (.ok after) ∧ p.ReadsBack v.datum reply before after) ∧
    (∀ {μ ν : Type} (m : Memory μ ν) (p : Property declaring ν)
      (store : declaring.Holding ν → Handed (p.type.Holding ν) → declaring.Holding ν)
      (load : declaring.Holding ν → p.type.Holding ν), p.type = .any →
      p.write? = some store → p.read? = some load → (∀ s x, load (store s x) = x.datum) →
      ∀ (w r : AccessWay) (s : declaring.Holding ν) (v : Handed ν) (u : μ),
        ∃ s', p.writeOn m w s v u = some (⟨⟨declaring, s'⟩, .ok ()⟩, u) ∧
          p.readOn m r s' u = some (.ok v.datum, u)) := by
  constructor
  · intro p store load hstore hload law w r s v hw
    exact Property.readsBack hstore hload law hw r s
  · intro μ ν m p store load hT hstore hload law w r s v u
    exact Property.readOn_of_writeOn m hT hstore hload law w r s v u

/-- A property of a record with one field, which holds a value. -/
def fieldProperty {ν : Type} (path name : String) (null : ν) : Property (.record path) ν where
  name := name
  visibility := .exposed
  type := .any
  read? := some fun fields =>
    match fields with
    | [(_, .held v)] => v
    | _ => null
  write? := some fun _ v => [(name, .held v.datum)]
  readable := fun _ => rfl
  unseen := nofun

/-- A literal that is written to the label of a subject is read as a text, and a truth value leaves
the label as it was.  A handle that is written to a field of a record in a store is read back. -/
theorem read_after_write_samples :
    (∃ reply s', Subject.labelProperty.writeBy .untyped (Subject.make "x")
        ⟨.boxed (.leaf .literal "a"), true⟩ = some reply ∧
      reply.outcome = .ok () ∧ reply.receiver = ⟨Subject.type, s'⟩ ∧
      Subject.labelProperty.readBy .typed s' = some (.ok (.text "a"))) ∧
    (∃ reply s', Subject.labelProperty.writeBy .instanceTyped (Subject.make "x")
        ⟨.boxed (.leaf .bool true), true⟩ = some reply ∧
      reply.outcome ≠ .ok () ∧ reply.receiver = ⟨Subject.type, s'⟩ ∧
      Subject.labelProperty.readBy .reflective s' = some (.ok (.text "x"))) ∧
    ∀ (shared : Store) (ref : Ref) (sole : Bool), ∃ s',
      (fieldProperty "Alpha" "any" none).writeOn Memory.shared .reflective [] ⟨ref, sole⟩ shared =
        some (⟨⟨.record "Alpha", s'⟩, .ok ()⟩, shared) ∧
      (fieldProperty "Alpha" "any" none).readOn Memory.shared .untyped s' shared =
        some (.ok ref, shared) := by
  obtain ⟨hplain, -⟩ := read_after_write Subject.type
  obtain ⟨-, hany⟩ := read_after_write (.record "Alpha")
  have hlabel := hplain Subject.labelProperty (fun _ text => Subject.make text.datum) Subject.label
    rfl rfl fun _ _ => rfl
  refine ⟨?_, ?_, fun shared ref sole => ?_⟩
  · obtain ⟨reply, s', _, after, hwrite, hs', -, hread, hback⟩ := hlabel .untyped .typed
      (Subject.make "x") ⟨.boxed (.leaf .literal "a"), true⟩ (by decide)
    have hdone : reply.outcome = .ok () := hback.done_iff.mpr rfl
    have hafter : some (Value.text "a") = some after := hback.written hdone
    cases hafter
    exact ⟨reply, s', hwrite, hdone, hs', hread⟩
  · obtain ⟨reply, s', before, after, hwrite, hs', hold, hread, hback⟩ := hlabel .instanceTyped
      .reflective (Subject.make "x") ⟨.boxed (.leaf .bool true), true⟩ (by decide)
    have hfailed : reply.outcome ≠ .ok () := fun hdone => nomatch hback.done_iff.mp hdone
    have hbefore : before = .text "x" := by cases hold; rfl
    refine ⟨reply, s', hwrite, hfailed, hs', ?_⟩
    cases houtcome : reply.outcome with
    | ok _ => exact absurd houtcome hfailed
    | error fault => rw [hread, hback.kept fault houtcome, hbefore]
  · exact hany Memory.shared (fieldProperty "Alpha" "any" none) _ _ rfl rfl rfl (fun _ _ => rfl)
      .reflective .untyped [] ⟨ref, sole⟩ shared

end LateBinding
