import Xib.Swift.Code
import Xib.Proofs.Acceptance
import Xib.Proofs.Accounting
import Xib.Proofs.Activation
import Xib.Proofs.AnchorKinds
import Xib.Proofs.AttributeFidelity
import Xib.Proofs.Blocks
import Xib.Proofs.CharacterReferences
import Xib.Proofs.Conservation
import Xib.Proofs.DeclarationOrder
import Xib.Proofs.FiniteNumbers
import Xib.Proofs.Hierarchy
import Xib.Proofs.Identifiers
import Xib.Proofs.Indentation
import Xib.Proofs.Isolation
import Xib.Proofs.LabelText
import Xib.Proofs.LineBreaks
import Xib.Proofs.MarkupOrder
import Xib.Proofs.Naming
import Xib.Proofs.Provenance
import Xib.Proofs.Quotations
import Xib.Proofs.Registration
import Xib.Proofs.Resolution
import Xib.Proofs.RoundTrip
import Xib.Proofs.Shadowing
import Xib.Proofs.Tables
