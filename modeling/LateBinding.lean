import LateBinding.Main
import LateBinding.Delegate.Boxed
import LateBinding.Delegate.Query
import LateBinding.Registry
import LateBinding.Samples.Constructors
import LateBinding.Samples.Methods
import LateBinding.Samples.Properties
import LateBinding.Samples.Scripts
import LateBinding.Store.Pool
import LateBinding.Value.Shown
import LateBinding.Proofs.Conversion
import LateBinding.Proofs.Marshalling
import LateBinding.Proofs.Closure
import LateBinding.Proofs.EntryPoints
import LateBinding.Proofs.InPlace
import LateBinding.Proofs.WriteBack
import LateBinding.Proofs.Reflection
import LateBinding.Proofs.Resolution
import LateBinding.Proofs.Direct
import LateBinding.Proofs.Container
import LateBinding.Proofs.Typing
import LateBinding.Proofs.Access
import LateBinding.Proofs.Soundness
import LateBinding.Proofs.NameTable
import LateBinding.Proofs.Recency
import LateBinding.Proofs.Admission
import LateBinding.Proofs.Scope
import LateBinding.Proofs.Construction
import LateBinding.Proofs.Agreement
import LateBinding.Proofs.RoundTrip
import LateBinding.Proofs.Exposure
import LateBinding.Proofs.Sharing
import LateBinding.Proofs.Classification
import LateBinding.Proofs.Variants
import LateBinding.Proofs.Meaning
import LateBinding.Proofs.Coherence
import LateBinding.Proofs.Anticipation
import LateBinding.Proofs.Acceptance
import LateBinding.Proofs.Growth
import LateBinding.Proofs.Narrowing
import LateBinding.Proofs.Shortfall
import LateBinding.Proofs.Runs
import LateBinding.Proofs.Arity
import LateBinding.Proofs.Checks
import LateBinding.Proofs.Copies
import LateBinding.Proofs.Readers
import LateBinding.Proofs.Handover
import LateBinding.Proofs.Lowering
import LateBinding.Proofs.ShortNames
import LateBinding.Proofs.Slots
