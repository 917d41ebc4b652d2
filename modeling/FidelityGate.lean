import FidelityGate.Binary64.Bits
import FidelityGate.Panel.Layout
import FidelityGate.Verdict.Fields
import FidelityGate.Workspace
import FidelityGate.Pack.Plain
import FidelityGate.Proofs.Judgement
import FidelityGate.Proofs.Attempts
import FidelityGate.Proofs.Run
import FidelityGate.Proofs.Rereading
import FidelityGate.Proofs.AgentLoop
import FidelityGate.Proofs.Replacement
import FidelityGate.Proofs.Visibility
import FidelityGate.Proofs.Enforcement
import FidelityGate.Proofs.Agreement
import FidelityGate.Proofs.RoundTrip
import FidelityGate.Proofs.Dominance
import FidelityGate.Proofs.Ink
import FidelityGate.Proofs.Growth
import FidelityGate.Proofs.ExactValue
import FidelityGate.Proofs.SavingLaws
import FidelityGate.Proofs.Nearest
import FidelityGate.Proofs.Boundary
import FidelityGate.Proofs.Stamping
import FidelityGate.Proofs.Malformed
import FidelityGate.Proofs.Diagnosis
import FidelityGate.Proofs.Records
import FidelityGate.Proofs.Configuration
import FidelityGate.Proofs.Independence
import FidelityGate.Proofs.Reporting
import FidelityGate.Proofs.Documents
