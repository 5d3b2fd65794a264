import LateBinding.Value.Coercion
import LateBinding.Value.Reading

/-!
# Memories

A member is handed values, and where data are shared a value is a handle.  What is done to a value
on the way to a member is said here for handles of any kind.

* `Memory`, `Memory.plain` — what is behind a handle, and how a datum is put behind a new one; plain
  values, each of which is its own handle;
* `Handed` — a datum on its way to a member, and whether the handle it comes by is the only one;
* `Memory.ofHolding` — boxing a datum; `Memory.takeValue` — the datum of an assigned value;
* `Retyped.settle`, `Memory.coerce` — what a coercion hands on.  A value that is kept comes by the
  handle of whoever has it, a new datum by one of its own.
-/

namespace LateBinding

/-- Values as handles `ν` on a memory `μ`: what is behind a handle, nothing for null, and how a
datum is put behind a new one. -/
structure Memory (μ ν : Type) where
  content? : μ → ν → Option (Content ν)
  null : ν
  box : Content ν → μ → ν × μ

/-- A datum that is handed to a member. -/
structure Handed (α : Type) where
  datum : α
  /-- Whether nobody else has the handle that the datum comes by.  Then the datum itself is handed
  over, and otherwise it is one that others see as well. -/
  sole : Bool

namespace Memory

variable {μ ν : Type} (m : Memory μ ν)

/-- Plain values, each of which is its own handle. -/
def plain : Memory Unit Value where
  content? _ v := v.content?
  null := .null
  box content u := (.boxed content, u)

/-- The mismatch of the type asked for and the type of a value. -/
def mismatch (u : μ) (T : TypeTag) (v : ν) : BindError :=
  .typeMismatch T.name (Content.typeName (m.content? u v))

/-- Read an assigned value. -/
def takeValue (u : μ) : (T : TypeTag) → ν → Except BindError (T.Holding ν)
  | .any, v => .ok v
  | T, v => Content.taken T (m.content? u v)

/-- Box a datum.  A handle stays as it is, and the unit datum becomes null. -/
def ofHolding (u : μ) : (T : TypeTag) → T.Holding ν → ν × μ
  | .any, v => (v, u)
  | .unit, _ => (m.null, u)
  | .object, e => nomatch e
  | .leaf l, datum => m.box (.leaf l datum) u
  | .optional, value? => m.box (.optional value?) u
  | .record path, fields => m.box (.record path fields) u

end Memory

/-! ### Coercion -/

/-- Hand on what becomes of a value: the value itself, or a new datum. -/
def Retyped.settle {μ ν : Type} (m : Memory μ ν) (v : Handed ν) (u : μ) :
    Retyped ν → Handed ν × μ
  | kept => (v, u)
  | fresh content =>
    let (w, u) := m.box content u
    (⟨w, true⟩, u)

/-- Coerce a value that somebody else keeps. -/
def Memory.coerce {μ ν : Type} (m : Memory μ ν) (T : TypeTag) (v : ν) (u : μ) :
    Option (Handed ν × μ) :=
  (retype T (m.content? u v)).map (·.settle m ⟨v, false⟩ u)

end LateBinding
