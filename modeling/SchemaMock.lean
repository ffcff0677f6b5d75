import SchemaMock.CommandLine.Run
import SchemaMock.Main
import SchemaMock.Proofs.Overrides
import SchemaMock.Proofs.Transparency
import SchemaMock.Proofs.Answers
import SchemaMock.Proofs.Expressions
import SchemaMock.Proofs.Imports
import SchemaMock.Proofs.Emitted
import SchemaMock.Proofs.Names
import SchemaMock.Proofs.Enumerations
import SchemaMock.Proofs.Nullability
import SchemaMock.Proofs.Reading
import SchemaMock.Proofs.Lookup
import SchemaMock.Proofs.Shapes
import SchemaMock.Proofs.Documents
import SchemaMock.Proofs.Positions
import SchemaMock.Proofs.SideBySide
import SchemaMock.Proofs.MockOrder
import SchemaMock.Proofs.MemberOrder
import SchemaMock.Proofs.Nodes
import SchemaMock.Proofs.Findings
import SchemaMock.Proofs.Walks
import SchemaMock.Proofs.Closure
import SchemaMock.Proofs.Dangling
import SchemaMock.Proofs.Flattening
import SchemaMock.Proofs.Threading
import SchemaMock.Proofs.Members
import SchemaMock.Proofs.Missing
import SchemaMock.Proofs.Required
import SchemaMock.Proofs.Branches
import SchemaMock.Proofs.PointerTargets
import SchemaMock.Proofs.Referrals
import SchemaMock.Proofs.PropertyNames
import SchemaMock.Proofs.LoadFaults
import SchemaMock.Proofs.EnumerationNames
import SchemaMock.Proofs.OptionFaults
import SchemaMock.Proofs.ReadBack
import SchemaMock.Proofs.KeyPaths
import SchemaMock.Proofs.HostNames
