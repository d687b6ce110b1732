import ClosureSpan.Agent.Script
import ClosureSpan.ClassSet
import ClosureSpan.Diagnostics.Line
import ClosureSpan.Proofs.ClassFile.Acceptance
import ClosureSpan.Proofs.ClassFile.Incremental
import ClosureSpan.Proofs.ClassFile.CutOff
import ClosureSpan.Proofs.ClassFile.Faults
import ClosureSpan.Proofs.ClassFile.Framing
import ClosureSpan.Proofs.ClassFile.Shortage
import ClosureSpan.Proofs.Session.Release
import ClosureSpan.Proofs.Vm.Serving
import ClosureSpan.Proofs.Text.Canonical
import ClosureSpan.Proofs.Text.Damage
import ClosureSpan.Proofs.Scan.Hull
import ClosureSpan.Proofs.ClassSet.Persistence
import ClosureSpan.Proofs.Agent.Configuration
import ClosureSpan.Proofs.Scan.FirstMatch
import ClosureSpan.Proofs.Vm.Stages
import ClosureSpan.Proofs.Session.Staging
import ClosureSpan.Proofs.Session.Visits
import ClosureSpan.Proofs.Session.Once
import ClosureSpan.Proofs.Session.Outcome
import ClosureSpan.Proofs.Session.Listeners
import ClosureSpan.Proofs.Agent.Exceptions
import ClosureSpan.Proofs.Scan.EntryName
import ClosureSpan.Proofs.Session.Ledger
import ClosureSpan.Proofs.Session.References
import ClosureSpan.Proofs.Text.Mixed
import ClosureSpan.Proofs.ClassSet.Answers
import ClosureSpan.Proofs.ClassSet.Overloads
import ClosureSpan.Proofs.Session.LeftPending
import ClosureSpan.Proofs.Vm.Footprint
import ClosureSpan.Proofs.Options.LastWins
import ClosureSpan.Proofs.Session.Negotiation
import ClosureSpan.Proofs.Session.ClassName
import ClosureSpan.Proofs.ClassSet.Bounds
