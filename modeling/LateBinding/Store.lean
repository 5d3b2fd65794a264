import LateBinding.Memory

/-!
# Shared data

Boxed data live in the cells of a store.  A handle is null or the address of a cell, a cell counts
the handles on it, and a cell nobody holds any more is freed together with its own handles.

* `Ref` — a handle; handles stand in variables, and inside boxed data;
* `Store.alloc`, `Store.retain`, `Store.release` — a new cell with one handle, one handle more, and
  handles given up;
* `Store.read?`, `Store.view` — the datum behind a handle, as it is stored and as a plain value;
* `Store.isUnique` — whether a handle is the only one on its cell, so that it may be written to;
* `Memory.shared` — the handles on the cells of a store as a memory;
* `Draft`, `Store.build` — a description of a value to be made, some of it shared with variables.
-/

namespace LateBinding

abbrev Address := Nat

/-- A handle: null, or the address of a cell. -/
abbrev Ref := Option Address

/-- A boxed datum with the number of handles on it. -/
structure Cell where
  owners : Nat
  content : Content Ref

/-- The cells by address; freed cells stay empty. -/
structure Store where
  cells : List (Option Cell) := []

def Content.held : Content Ref → List Address
  | leaf _ _ => []
  | optional (some (some a)) => [a]
  | optional _ => []
  | record _ fields => fields.filterMap fun (_, field) =>
    match field with
    | .held ref => ref
    | .plain _ _ => none

namespace Store

/-- The cell at an address, unless it is empty. -/
def cell? (s : Store) (a : Address) : Option Cell := s.cells[a]?.join

def put (s : Store) (a : Address) (cell? : Option Cell) : Store := ⟨s.cells.set a cell?⟩

/-- A new cell with one handle on it. -/
def alloc (s : Store) (content : Content Ref) : Ref × Store :=
  (some s.cells.length, ⟨s.cells ++ [some ⟨1, content⟩]⟩)

/-- One handle more. -/
def retain (s : Store) : Ref → Store
  | none => s
  | some a =>
    match s.cell? a with
    | some cell => s.put a (some { cell with owners := cell.owners + 1 })
    | none => s

def read? (s : Store) (ref : Ref) : Option (Content Ref) :=
  ref.bind fun a => (s.cell? a).map Cell.content

/-- Whether the handle is the only one on its cell. -/
def isUnique (s : Store) (ref : Ref) : Bool :=
  match ref.bind s.cell? with
  | some cell => cell.owners = 1
  | none => false

/-! ### Giving handles up -/

/-- What a list of cells weighs: each cell one more than its handles. -/
def weight : List (Option Cell) → Nat
  | [] => 0
  | none :: cells => weight cells
  | some cell :: cells => cell.owners + 1 + weight cells

theorem weight_set_lt {cells : List (Option Cell)} {a : Address} {cell : Cell}
    {cell? : Option Cell} (h : cells[a]? = some (some cell))
    (lighter : ∀ c, cell? = some c → c.owners < cell.owners) :
    weight (cells.set a cell?) < weight cells := by
  induction cells generalizing a with
  | nil => simp at h
  | cons c cells ih =>
    cases a with
    | zero =>
      simp only [List.getElem?_cons_zero, Option.some.injEq] at h
      subst h
      cases hc : cell? with
      | none => simp only [List.set_cons_zero, weight]; omega
      | some new =>
        have := lighter new hc
        simp only [List.set_cons_zero, weight]; omega
    | succ a =>
      simp only [List.getElem?_cons_succ] at h
      have := ih h
      cases c <;> simp only [List.set_cons_succ, weight] <;> omega

theorem getElem?_of_cell? {s : Store} {a : Address} {cell : Cell} (h : s.cell? a = some cell) :
    s.cells[a]? = some (some cell) := by
  unfold cell? at h
  cases hc : s.cells[a]? with
  | none => simp [hc] at h
  | some c => simpa [hc] using h

/-- Give up the handles in `work`.  The last handle on a cell frees the cell, and the handles in
its datum are given up in turn. -/
def release (s : Store) : (work : List Address) → Store
  | [] => s
  | a :: work =>
    match _h : s.cell? a with
    | none => release s work
    | some cell =>
      if 1 < cell.owners then
        release (s.put a (some { cell with owners := cell.owners - 1 })) work
      else release (s.put a none) (cell.content.held ++ work)
termination_by work => (weight s.cells, work.length)
decreasing_by
  · exact Prod.Lex.right _ (by simp)
  · refine Prod.Lex.left _ _ (weight_set_lt (getElem?_of_cell? (by assumption)) ?_)
    rintro c ⟨⟩
    show cell.owners - 1 < cell.owners
    omega
  · exact Prod.Lex.left _ _ (weight_set_lt (getElem?_of_cell? (by assumption)) (by simp))

/-- Give up one handle. -/
def releaseRef (s : Store) (ref : Ref) : Store := s.release ref.toList

/-! ### Plain values -/

/-- The value behind a handle, looking at most `depth` handles deep. -/
def viewTo (s : Store) : (depth : Nat) → Ref → Value
  | 0, _ => .null
  | depth + 1, ref =>
    match s.read? ref with
    | none => .null
    | some (.leaf l datum) => .boxed (.leaf l datum)
    | some (.optional ref?) => .boxed (.optional (ref?.map (viewTo s depth)))
    | some (.record path fields) =>
      .boxed (.record path (fields.map fun (name, field) =>
        (name, match field with
          | .plain l datum => .plain l datum
          | .held inner => .held (viewTo s depth inner))))

/-- The value behind a handle.  No chain of handles is longer than the store. -/
def view (s : Store) (ref : Ref) : Value := s.viewTo (s.cells.length + 1) ref

end Store

/-- The handles on the cells of a store. -/
def Memory.shared : Memory Store Ref where
  content? s ref := s.read? ref
  null := none
  box content s := s.alloc content

/-! ### Values to be made -/

/-- A value to be made: null, a new datum, or a handle shared with a variable. -/
inductive Draft where
  | null
  | boxed (content : Content Draft)
  | sharing (name : String)

namespace Draft

mutual

/-- The draft of a value in which everything is new. -/
def ofValue : Value → Draft
  | .null => null
  | .boxed content => boxed (ofContent content)

def ofContent : Content Value → Content Draft
  | .leaf l datum => .leaf l datum
  | .optional value? => .optional (ofOption value?)
  | .record path fields => .record path (ofFields fields)

def ofOption : Option Value → Option Draft
  | none => none
  | some v => some (ofValue v)

def ofFields : List (String × Field Value) → List (String × Field Draft)
  | [] => []
  | field :: fields => ofNamed field :: ofFields fields

def ofNamed : String × Field Value → String × Field Draft
  | (name, field) => (name, ofField field)

def ofField : Field Value → Field Draft
  | .plain l datum => .plain l datum
  | .held v => .held (ofValue v)

end

end Draft

namespace Store

mutual

/-- Make the value a draft describes; `handles` gives the handles it may share. -/
def build (handles : String → Ref) : Draft → Store → Ref × Store
  | .null, s => (none, s)
  | .sharing x, s => (handles x, s.retain (handles x))
  | .boxed content, s =>
    let (content, s) := buildContent handles content s
    s.alloc content

def buildContent (handles : String → Ref) : Content Draft → Store → Content Ref × Store
  | .leaf l datum, s => (.leaf l datum, s)
  | .optional draft?, s =>
    let (ref?, s) := buildOption handles draft? s
    (.optional ref?, s)
  | .record path fields, s =>
    let (fields, s) := buildFields handles fields s
    (.record path fields, s)

def buildOption (handles : String → Ref) : Option Draft → Store → Option Ref × Store
  | none, s => (none, s)
  | some draft, s =>
    let (ref, s) := build handles draft s
    (some ref, s)

/-- Make the inner values of fields, in order. -/
def buildFields (handles : String → Ref) :
    List (String × Field Draft) → Store → List (String × Field Ref) × Store
  | [], s => ([], s)
  | field :: fields, s =>
    let (field, s) := buildNamed handles field s
    let (fields, s) := buildFields handles fields s
    (field :: fields, s)

/-- Make the inner value of a field with a name. -/
def buildNamed (handles : String → Ref) :
    String × Field Draft → Store → (String × Field Ref) × Store
  | (name, field), s =>
    let (field, s) := buildField handles field s
    ((name, field), s)

def buildField (handles : String → Ref) : Field Draft → Store → Field Ref × Store
  | .plain l datum, s => (.plain l datum, s)
  | .held draft, s =>
    let (ref, s) := build handles draft s
    (.held ref, s)

end

end Store

end LateBinding
