import LateBinding.Samples.Host
import LateBinding.Member.Property

/-!
# Properties of the sample types

* `sampleProperty?` — the property of a sample type for a given field.  Two fields that are not part
  of the state, of the unit type and of a literal type, can only be read.
-/

namespace LateBinding

/-- The accessors a property is given. -/
inductive Access where
  | readWrite
  | readOnly
  | writeOnly
  deriving DecidableEq, Repr

def propertyOf (path name : String) (access : Access) (type : TypeTag)
    (readable : type.readable) (read : Host → type.Carrier)
    (write : Host → type.Carrier → Host) : Property (hostType path) where
  name := name
  visibility := .exposed
  type := type
  read? := if access = .writeOnly then none else some fun s => read (.ofFields s)
  write? :=
    if access = .readOnly then none else some fun s x => (write (.ofFields s) x.datum).toFields
  readable := fun _ => readable
  unseen := by
    intro write' _ hwrite' _ s x
    split at hwrite'
    · cases hwrite'
    · cases hwrite'
      rfl

/-- A property that can only be read and has one value for all instances. -/
def constantProperty (path name : String) (type : TypeTag) (x : type.Carrier) :
    Property (hostType path) where
  name := name
  visibility := .exposed
  type := type
  read? := some fun _ => x
  write? := none
  readable := nofun
  unseen := nofun

def sampleProperty? (path name : String) (access : Access) :
    (field : String) → Option (Property (hostType path))
  | "text" =>
    some (propertyOf path name access .text rfl Host.text fun h text => { h with text })
  | "num" =>
    some (propertyOf path name access (.int .i64) rfl Host.num fun h num => { h with num })
  | "real" =>
    some (propertyOf path name access .double rfl Host.real fun h real => { h with real })
  | "calls" =>
    some (propertyOf path name access (.int .u32) rfl Host.calls fun h calls => { h with calls })
  | "any" => some (propertyOf path name access .any rfl Host.any fun h any => { h with any })
  | "unit" => some (constantProperty path name .unit ())
  | "kind" => some (constantProperty path name .literal "host")
  | _ => none

end LateBinding
