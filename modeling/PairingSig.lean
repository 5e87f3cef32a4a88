import PairingSig.Journal
import PairingSig.Main
import PairingSig.Proofs.Binary
import PairingSig.Proofs.Primality
import PairingSig.Proofs.Groups.Interpretation
import PairingSig.Proofs.Groups.Values
import PairingSig.Proofs.Scheme.Signers
import PairingSig.Proofs.Groups.Exponents
import PairingSig.Proofs.Scheme.Verification
import PairingSig.Proofs.Scheme.Results
import PairingSig.Proofs.Traversal
import PairingSig.Proofs.Scheme.Aggregation
import PairingSig.Proofs.Cache
import PairingSig.Proofs.Verifier.Lookup
import PairingSig.Proofs.Verifier.Recency
import PairingSig.Proofs.Verifier.Refinement
import PairingSig.Proofs.Field.Base
import PairingSig.Proofs.Field.Extension
import PairingSig.Proofs.Curve.Group
import PairingSig.Proofs.Curve.Standard
import PairingSig.Proofs.Curve.Compressed
import PairingSig.Proofs.Groups.Standard
import PairingSig.Proofs.Key.Private
import PairingSig.Proofs.Scheme.Binding
import PairingSig.Proofs.Groups.Membership
import PairingSig.Proofs.Key.Generation
import PairingSig.Proofs.KeyRing.Lifetimes
import PairingSig.Proofs.Scheme.Events
import PairingSig.Proofs.Verifier.Capacity
import PairingSig.Proofs.Verifier.Events
import PairingSig.Proofs.Hex
import PairingSig.Proofs.Lifecycle
import PairingSig.Proofs.Scheme.Precedence
import PairingSig.Proofs.Scheme.Sums
import PairingSig.Proofs.Hash.Hkdf
import PairingSig.Proofs.Scheme.Generation
import PairingSig.Proofs.Filter.LevelText
import PairingSig.Proofs.Filter.Reading
import PairingSig.Proofs.Filter.Showing
import PairingSig.Proofs.Journal
import PairingSig.Proofs.Field.Tower
import PairingSig.Proofs.Scheme.Reordering
import PairingSig.Proofs.Scheme.Multiples
import PairingSig.Proofs.Verifier.Singletons
import PairingSig.Proofs.Pairing.Classes
import PairingSig.Proofs.HashToCurve.OnCurve
import PairingSig.Proofs.Groups.Equality
import PairingSig.Proofs.KeyRing.Equality
