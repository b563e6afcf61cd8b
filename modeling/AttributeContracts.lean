import AttributeContracts.Builder
import AttributeContracts.Catalogue
import AttributeContracts.Config.Context
import AttributeContracts.Config.File
import AttributeContracts.Constraint.Equality
import AttributeContracts.Making
import AttributeContracts.Numeral.Reading
import AttributeContracts.Value.Subclass
import AttributeContracts.Proofs.Members
import AttributeContracts.Proofs.Outcome
import AttributeContracts.Proofs.First
import AttributeContracts.Proofs.Assignability
import AttributeContracts.Proofs.Accessors
import AttributeContracts.Proofs.Session
import AttributeContracts.Proofs.Builder
import AttributeContracts.Proofs.Caching
import AttributeContracts.Proofs.CacheHistory
import AttributeContracts.Proofs.Synthesized
import AttributeContracts.Proofs.Synthesis
import AttributeContracts.Proofs.Elevation
import AttributeContracts.Proofs.Program
import AttributeContracts.Proofs.Agreement
import AttributeContracts.Proofs.Transparency
import AttributeContracts.Proofs.LastWrite
import AttributeContracts.Proofs.Contract
import AttributeContracts.Proofs.Defaults
import AttributeContracts.Proofs.Comparison
import AttributeContracts.Proofs.Equality
import AttributeContracts.Proofs.Copying
import AttributeContracts.Proofs.Blame
import AttributeContracts.Proofs.Verdict
import AttributeContracts.Proofs.Parts
import AttributeContracts.Proofs.PlainForm
import AttributeContracts.Proofs.Rendering
import AttributeContracts.Proofs.Walk
import AttributeContracts.Proofs.Conversion
import AttributeContracts.Proofs.Repeatability
import AttributeContracts.Proofs.Trace
import AttributeContracts.Proofs.Guarding
import AttributeContracts.Proofs.Enumeration
import AttributeContracts.Proofs.FinalValues
import AttributeContracts.Proofs.Sources
import AttributeContracts.Proofs.Narrowing
import AttributeContracts.Proofs.ShownNames
import AttributeContracts.Proofs.Separation
import AttributeContracts.Proofs.Conformance
import AttributeContracts.Proofs.Marker
import AttributeContracts.Proofs.Lookup
