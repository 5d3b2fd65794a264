import LateBinding.Proofs.Identity

/-!
# Ledger: the same steps on values that are copied

A ledger keeps the value of each variable, and keeps it for itself: nothing is shared, nothing is
counted, and a step on one variable cannot be noticed at another.  What remains of sharing are the
stamps, which a datum is given once, when it is made, and keeps wherever it is copied.

* `Pool.Op`, `Pool.perform`, `Pool.after` — what may be done to the variables of a pool, one step
  after the other: the steps of a pool, and to take out a value that stands inside a datum;
* `Stamped.make` — the value of a draft, with a new stamp for each new datum;
* `Ledger`, `Ledger.perform`, `Ledger.after` — the same on a ledger.
-/

namespace LateBinding

/-! ### What may be done to the variables of a pool -/

namespace Pool

/-- What may be done to the variables of a pool. -/
inductive Op where
  | step (step : Step)
  /-- Bind the variable `target` to a value that stands inside the datum of the variable
  `source`. -/
  | takeOut (source : String) (position : Nat) (target : String)

/-- The handle at a position inside the datum of a variable; null where there is none. -/
def innerRef (p : Pool) (source : String) (position : Nat) : Ref :=
  (p.store.read? (p.ref source)).bind fun content => content.inner[position]?.join

def perform (p : Pool) : Op → Outcome × Pool
  | .step step => p.step step
  | .takeOut source position target =>
    let ref := p.innerRef source position
    (.done, bind ⟨p.handles, p.store.retain ref⟩ target ref)

/-- The pool after a sequence of operations. -/
def after (ops : List Op) : Pool := ops.foldl (fun p op => (p.perform op).2) {}

/-- The variable that is bound, written to or given up. -/
def Op.subject : Op → String
  | .step (.make target _) | .step (.share _ target) | .step (.write target _)
  | .step (.coerce _ _ target) | .takeOut _ _ target => target
  | .step (.drop source) | .step (.intoInner _ source) | .step (.takeValue _ source) => source

end Pool

/-! ### Making values -/

namespace Stamped

variable (values : String → Stamped)

mutual

/-- The value a draft describes.  Every datum that is made is given the next stamp. -/
def make : Draft → (next : Address) → Stamped × Address
  | .null, next => (.null, next)
  | .sharing x, next => (values x, next)
  | .boxed content, next =>
    let (content, next) := makeContent content next
    (.boxed next content, next + 1)

def makeContent : Content Draft → (next : Address) → Content Stamped × Address
  | .leaf kind datum, next => (.leaf kind datum, next)
  | .optional draft?, next =>
    let (value?, next) := makeOption draft? next
    (.optional value?, next)
  | .record path fields, next =>
    let (fields, next) := makeFields fields next
    (.record path fields, next)

def makeOption : Option Draft → (next : Address) → Option Stamped × Address
  | none, next => (none, next)
  | some draft, next =>
    let (v, next) := make draft next
    (some v, next)

def makeFields : List (String × Field Draft) → (next : Address) →
    List (String × Field Stamped) × Address
  | [], next => ([], next)
  | field :: fields, next =>
    let (field, next) := makeNamed field next
    let (fields, next) := makeFields fields next
    (field :: fields, next)

def makeNamed : String × Field Draft → (next : Address) → (String × Field Stamped) × Address
  | (name, field), next =>
    let (field, next) := makeField field next
    ((name, field), next)

def makeField : Field Draft → (next : Address) → Field Stamped × Address
  | .plain kind datum, next => (.plain kind datum, next)
  | .held draft, next =>
    let (v, next) := make draft next
    (.held v, next)

end

end Stamped

namespace Store

variable {s s' s'' : Store} {roots held held' : List Address} {ref : Ref} {content : Content Ref}

/-- Something was made that holds the given handles, and all that was there is there. -/
structure Built (s s' : Store) (roots held : List Address) : Prop where
  owned : s'.Owned (held ++ roots)
  grows : s.Grows s'

/-- The handles of variables are counted, and `values` are the values behind them. -/
structure Shows (s : Store) (roots : List Address) (handles : String → Ref)
    (values : String → Stamped) : Prop where
  owned : s.Owned roots
  mem_roots : ∀ x, ∀ a ∈ handles x, a ∈ roots
  value_eq : ∀ x, values x = s.stamped (handles x)

variable {handles : String → Ref} {values : String → Stamped}

theorem Shows.live (h : s.Shows roots handles values) (x : String) :
    ∀ a ∈ handles x, s.Live a := h.owned.live_of_mem (h.mem_roots x)

theorem Shows.built_refl (h : s.Shows roots handles values) : s.Built s roots [] :=
  ⟨h.owned, .refl s⟩

/-- The values of variables are seen in what was made as before. -/
theorem Shows.after (h : s.Shows roots handles values) (hbuilt : s.Built s' roots held) :
    s'.Shows (held ++ roots) handles values where
  owned := hbuilt.owned
  mem_roots x a ha := List.mem_append_right held (h.mem_roots x a ha)
  value_eq x := by
    rw [h.value_eq, h.owned.stamped_of_grows hbuilt.owned hbuilt.grows (h.live x)]

theorem Built.append (h : s.Built s' roots held) (h' : s'.Built s'' (held ++ roots) held') :
    s.Built s'' roots (held ++ held') where
  owned := by
    refine h'.owned.perm ?_
    rw [List.append_assoc]
    exact List.perm_append_comm_assoc held' held roots
  grows := h.grows.trans h'.grows

theorem Built.alloc (h : s.Built s' roots content.held) :
    s.Built (s'.alloc content).2 roots (s'.alloc content).1.toList where
  owned := h.owned.alloc
  grows := h.grows.trans (s'.grows_alloc content)

theorem Owned.built_retain (h : s.Owned roots) (href : ∀ a ∈ ref, s.Live a) :
    s.Built (s.retain ref) roots ref.toList where
  owned := h.retain href
  grows := s.grows_retain ref

/-- A field that was made first is seen as before after the rest was made. -/
theorem Built.map_stamped {field : Field Ref} (h : s.Owned (field.handle?.toList ++ roots))
    (hbuilt : s.Built s' (field.handle?.toList ++ roots) held) :
    field.map s'.stamped = field.map s.stamped := by
  cases field with
  | plain kind datum => rfl
  | held ref =>
    refine congrArg Field.held (h.stamped_of_grows hbuilt.owned hbuilt.grows fun a ha => ?_)
    exact h.live (.inl (List.mem_append_left roots (Option.mem_toList.mpr ha)))

mutual

/-- **What is made from a draft is the value the draft describes.** -/
theorem build_spec : ∀ (draft : Draft) {s : Store} {roots : List Address},
    s.Shows roots handles values →
    s.Built (build handles draft s).2 roots (build handles draft s).1.toList ∧
    Stamped.make values draft s.cells.length =
      ((build handles draft s).2.stamped (build handles draft s).1,
        (build handles draft s).2.cells.length)
  | .null, _, _, h => ⟨h.built_refl, rfl⟩
  | .sharing x, s, _, h => by
    have hbuilt := h.owned.built_retain (h.live x)
    refine ⟨hbuilt, ?_⟩
    show (values x, s.cells.length) = ((s.retain (handles x)).stamped (handles x),
      (s.retain (handles x)).cells.length)
    rw [(h.after hbuilt).value_eq x, (s.keeps_retain (handles x)).length_eq]
  | .boxed content, s, _, h => by
    obtain ⟨hbuilt, heq⟩ := buildContent_spec content h
    refine ⟨hbuilt.alloc, ?_⟩
    rw [Stamped.make, heq]
    exact Prod.ext hbuilt.owned.stamped_alloc.symm (length_alloc ..).symm

theorem buildContent_spec : ∀ (content : Content Draft) {s : Store} {roots : List Address},
    s.Shows roots handles values →
    s.Built (buildContent handles content s).2 roots (buildContent handles content s).1.held ∧
    Stamped.makeContent values content s.cells.length =
      ((buildContent handles content s).1.map (buildContent handles content s).2.stamped,
        (buildContent handles content s).2.cells.length)
  | .leaf _ _, _, _, h => ⟨h.built_refl, rfl⟩
  | .optional draft?, s, _, h => by
    obtain ⟨hbuilt, heq⟩ := buildOption_spec draft? h
    rw [buildContent, Content.held_optional, Stamped.makeContent, heq]
    exact ⟨hbuilt, rfl⟩
  | .record _ fields, s, _, h => by
    obtain ⟨hbuilt, heq⟩ := buildFields_spec fields h
    rw [buildContent, Content.held_record, Stamped.makeContent, heq]
    exact ⟨hbuilt, rfl⟩

theorem buildOption_spec : ∀ (draft? : Option Draft) {s : Store} {roots : List Address},
    s.Shows roots handles values →
    s.Built (buildOption handles draft? s).2 roots (buildOption handles draft? s).1.join.toList ∧
    Stamped.makeOption values draft? s.cells.length =
      ((buildOption handles draft? s).1.map (buildOption handles draft? s).2.stamped,
        (buildOption handles draft? s).2.cells.length)
  | none, _, _, h => ⟨h.built_refl, rfl⟩
  | some draft, _, _, h => by
    obtain ⟨hbuilt, heq⟩ := build_spec draft h
    rw [Stamped.makeOption, heq]
    exact ⟨hbuilt, rfl⟩

theorem buildFields_spec : ∀ (fields : List (String × Field Draft)) {s : Store}
    {roots : List Address}, s.Shows roots handles values →
    s.Built (buildFields handles fields s).2 roots
      ((buildFields handles fields s).1.filterMap fun field => field.2.handle?) ∧
    Stamped.makeFields values fields s.cells.length =
      ((buildFields handles fields s).1.map fun field =>
          (field.1, field.2.map (buildFields handles fields s).2.stamped),
        (buildFields handles fields s).2.cells.length)
  | [], _, _, h => ⟨h.built_refl, rfl⟩
  | field :: fields, s, _, h => by
    obtain ⟨hfirst, heq⟩ := buildNamed_spec field h
    obtain ⟨hrest, heq'⟩ := buildFields_spec fields (h.after hfirst)
    have hall := hfirst.append hrest
    have hkept := Built.map_stamped hfirst.owned hrest
    constructor
    · rw [buildFields]
      simp only [List.filterMap_cons]
      cases hfield : (buildNamed handles field s).1.2.handle? with
      | none => simpa [hfield] using hall
      | some a => simpa [hfield] using hall
    · rw [Stamped.makeFields, heq]
      simp only
      rw [heq', buildFields, List.map_cons, hkept]

theorem buildNamed_spec : ∀ (field : String × Field Draft) {s : Store} {roots : List Address},
    s.Shows roots handles values →
    s.Built (buildNamed handles field s).2 roots
      (buildNamed handles field s).1.2.handle?.toList ∧
    Stamped.makeNamed values field s.cells.length =
      (((buildNamed handles field s).1.1,
          (buildNamed handles field s).1.2.map (buildNamed handles field s).2.stamped),
        (buildNamed handles field s).2.cells.length)
  | (_, field), _, _, h => by
    obtain ⟨hbuilt, heq⟩ := buildField_spec field h
    rw [Stamped.makeNamed, heq]
    exact ⟨hbuilt, rfl⟩

theorem buildField_spec : ∀ (field : Field Draft) {s : Store} {roots : List Address},
    s.Shows roots handles values →
    s.Built (buildField handles field s).2 roots (buildField handles field s).1.handle?.toList ∧
    Stamped.makeField values field s.cells.length =
      ((buildField handles field s).1.map (buildField handles field s).2.stamped,
        (buildField handles field s).2.cells.length)
  | .plain _ _, _, _, h => ⟨h.built_refl, rfl⟩
  | .held draft, _, _, h => by
    obtain ⟨hbuilt, heq⟩ := build_spec draft h
    rw [Stamped.makeField, heq]
    exact ⟨hbuilt, rfl⟩

end

end Store

/-! ### Ledgers -/

/-- The values of variables, and the next stamp. -/
structure Ledger where
  values : List (String × Stamped) := []
  next : Address := 0

namespace Ledger

def value? (l : Ledger) (name : String) : Option Stamped := Registry.lookup? l.values name

/-- The value of a variable; null where there is no such variable. -/
def value (l : Ledger) (name : String) : Stamped := (l.value? name).getD .null

/-- The values of the other variables. -/
def others (l : Ledger) (name : String) : List Stamped :=
  (Registry.erase l.values name).map (·.2)

/-- Let a variable have a value. -/
def assign (l : Ledger) (name : String) (v : Stamped) (next : Address) : Ledger :=
  ⟨Registry.update name v l.values, next⟩

def erase (l : Ledger) (name : String) : Ledger := ⟨Registry.erase l.values name, l.next⟩

/-- Write a newly made datum of its present type to a variable, if its stamp stands in no other
value.  The datum keeps its stamp. -/
def write (l : Ledger) (target : String) (draft : Content Draft) : Bool × Ledger :=
  let (content, next) := Stamped.makeContent l.value draft l.next
  match l.value target with
  | .null => (false, ⟨l.values, next⟩)
  | .boxed stamp old =>
    if (∀ v ∈ content.inner ++ l.others target, stamp ∉ v.stamps) ∧ old.tag = content.tag then
      (true, l.assign target (.boxed stamp content) next)
    else (false, ⟨l.values, next⟩)

def step (l : Ledger) : Pool.Step → Pool.Outcome × Ledger
  | .make target draft =>
    let (v, next) := Stamped.make l.value draft l.next
    (.done, l.assign target v next)
  | .share source target => (.done, l.assign target (l.value source) l.next)
  | .drop source => (.flag (l.value? source).isSome, l.erase source)
  | .write target draft =>
    let (written, l) := l.write target draft
    (.flag written, l)
  | .intoInner T source =>
    (.read (Pool.boxed T ((l.value source).plain.extract T)), l.erase source)
  | .takeValue T source =>
    (.read (Pool.boxed T ((l.value source).plain.fromValue T)), l.erase source)
  | .coerce T source target =>
    match retype T (l.value source).content? with
    | none => (.coerced none, l)
    | some .kept =>
      (.coerced (some (l.value source).plain), l.assign target (l.value source) l.next)
    | some (.fresh content) =>
      let v := Stamped.boxed l.next content
      (.coerced (some v.plain), l.assign target v (l.next + 1))

/-- The value at a position inside the datum of a variable; null where there is none. -/
def innerValue (l : Ledger) (source : String) (position : Nat) : Stamped :=
  ((l.value source).content?.bind fun content => content.inner[position]?).getD .null

def perform (l : Ledger) : Pool.Op → Pool.Outcome × Ledger
  | .step step => l.step step
  | .takeOut source position target =>
    (.done, l.assign target (l.innerValue source position) l.next)

/-- The ledger after a sequence of operations. -/
def after (ops : List Pool.Op) : Ledger := ops.foldl (fun l op => (l.perform op).2) {}

/-! ### What a step leaves -/

theorem value_assign_self (l : Ledger) (name : String) (v : Stamped) (next : Address) :
    (l.assign name v next).value name = v := by
  rw [value, value?, assign, Registry.lookup?_update_self]
  rfl

theorem value_assign_ne {name other : String} (h : other ≠ name) (l : Ledger) (v : Stamped)
    (next : Address) : (l.assign name v next).value other = l.value other := by
  rw [value, value?, assign, Registry.lookup?_update_ne h]
  rfl

theorem value_erase_self (l : Ledger) (name : String) : (l.erase name).value name = .null := by
  rw [value, value?, erase, Registry.lookup?_erase_self]
  rfl

theorem value_erase_ne {name other : String} (h : other ≠ name) (l : Ledger) :
    (l.erase name).value other = l.value other := by
  rw [value, value?, erase, Registry.lookup?_erase_ne h]
  rfl

theorem tag_makeContent (values : String → Stamped) (draft : Content Draft) (next : Address) :
    (Stamped.makeContent values draft next).1.tag = draft.tag := by
  cases draft <;> rfl

/-- The datum of a variable, which bears the stamp, is of the type of a new one, and the stamp
stands in no other value and not in the new datum. -/
def Writable (l : Ledger) (target : String) (draft : Content Draft) (stamp : Address) : Prop :=
  (l.value target).stamp? = some stamp ∧
    (l.value target).content?.map Content.tag = some draft.tag ∧
    ∀ v ∈ (Stamped.makeContent l.value draft l.next).1.inner ++ l.others target, stamp ∉ v.stamps

/-- **What a write does.**  Where it goes through, the datum is exchanged under its stamp. -/
theorem write_cases (l : Ledger) (target : String) (draft : Content Draft) :
    (∃ stamp, l.Writable target draft stamp ∧
      l.write target draft = (true, l.assign target
        (.boxed stamp (Stamped.makeContent l.value draft l.next).1)
        (Stamped.makeContent l.value draft l.next).2)) ∨
    ((∀ stamp, ¬ l.Writable target draft stamp) ∧ l.write target draft =
      (false, ⟨l.values, (Stamped.makeContent l.value draft l.next).2⟩)) := by
  rw [write]
  cases hvalue : l.value target with
  | null =>
    refine .inr ⟨fun stamp hwritable => ?_, rfl⟩
    rw [Writable, hvalue] at hwritable
    cases hwritable.1
  | boxed stamp old =>
    by_cases hsole : (∀ v ∈ (Stamped.makeContent l.value draft l.next).1.inner ++ l.others target,
        stamp ∉ v.stamps) ∧ old.tag = (Stamped.makeContent l.value draft l.next).1.tag
    · refine .inl ⟨stamp, ⟨?_, ?_, hsole.1⟩, if_pos hsole⟩
      · rw [hvalue]
        rfl
      · rw [hvalue, ← tag_makeContent l.value draft l.next, ← hsole.2]
        rfl
    · refine .inr ⟨fun stamp' hwritable => ?_, if_neg hsole⟩
      rw [Writable, hvalue, ← tag_makeContent l.value draft l.next] at hwritable
      obtain ⟨⟨⟩, htag, hnone⟩ := hwritable
      exact hsole ⟨hnone, Option.some.inj htag⟩

/-- **An operation changes the value of its subject only.** -/
theorem value_perform_ne (l : Ledger) {op : Pool.Op} {x : String} (h : x ≠ op.subject) :
    (l.perform op).2.value x = l.value x := by
  cases op with
  | takeOut source position target => exact value_assign_ne h ..
  | step step =>
    cases step with
    | make target draft => exact value_assign_ne h ..
    | share source target => exact value_assign_ne h ..
    | drop source => exact value_erase_ne h l
    | write target draft =>
      rcases l.write_cases target draft with ⟨stamp, -, hwrite⟩ | ⟨-, hwrite⟩
      · rw [perform, step, hwrite]
        exact value_assign_ne h ..
      · rw [perform, step, hwrite]
        rfl
    | intoInner T source => exact value_erase_ne h l
    | takeValue T source => exact value_erase_ne h l
    | coerce T source target =>
      simp only [perform, step]
      split
      · rfl
      · exact value_assign_ne h ..
      · exact value_assign_ne h ..

end Ledger

end LateBinding
