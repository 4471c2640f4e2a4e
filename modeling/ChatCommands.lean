import ChatCommands.Entity
import ChatCommands.Logging.Setup
import ChatCommands.Proofs.Alignment
import ChatCommands.Proofs.Authorization
import ChatCommands.Proofs.Containment
import ChatCommands.Proofs.Guarantee
import ChatCommands.Session
import ChatCommands.Settings.Load
import ChatCommands.TaskPool
import ChatCommands.Proofs.Segmentation
import ChatCommands.Proofs.Descent
import ChatCommands.Proofs.Agenda
import ChatCommands.Proofs.Bound
import ChatCommands.Proofs.Denial
import ChatCommands.Proofs.Tally
import ChatCommands.Proofs.Head
import ChatCommands.Proofs.Substitution
import ChatCommands.Proofs.Gate
import ChatCommands.Proofs.Transport
import ChatCommands.Proofs.Callee
import ChatCommands.Proofs.History
import ChatCommands.Proofs.SessionRun
import ChatCommands.Proofs.Checks
import ChatCommands.Proofs.Declaration
import ChatCommands.Proofs.Routing
import ChatCommands.Proofs.DistinctNames
import ChatCommands.Proofs.Overlay
import ChatCommands.Proofs.Layering
import ChatCommands.Proofs.Depth
import ChatCommands.Proofs.Precedence
import ChatCommands.Proofs.Fallback
import ChatCommands.Proofs.Fault
import ChatCommands.Proofs.Strictness
import ChatCommands.Proofs.FileOutcome
import ChatCommands.Proofs.Extension
import ChatCommands.Proofs.Reference
import ChatCommands.Proofs.Typing
import ChatCommands.Proofs.Neutrality
import ChatCommands.Proofs.Acceptance
import ChatCommands.Proofs.Agreement
import ChatCommands.Proofs.Path
import ChatCommands.Proofs.TestOrder
import ChatCommands.Proofs.Report
import ChatCommands.Proofs.Commuting
