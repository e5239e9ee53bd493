import AccessNetwork.Address.Loose
import AccessNetwork.Fault
import AccessNetwork.Run
import AccessNetwork.Proofs.Discipline
import AccessNetwork.Proofs.History
import AccessNetwork.Proofs.Detachment
import AccessNetwork.Proofs.Accounting
import AccessNetwork.Proofs.Commuting
import AccessNetwork.Proofs.Interleaving
import AccessNetwork.Proofs.Indistinguishable
import AccessNetwork.Proofs.Questions
import AccessNetwork.Proofs.Draws
import AccessNetwork.Proofs.Epochs
import AccessNetwork.Proofs.Grammar
import AccessNetwork.Proofs.Tags
import AccessNetwork.Proofs.Rejection
import AccessNetwork.Proofs.Coverage
import AccessNetwork.Proofs.Shortfall
import AccessNetwork.Proofs.Handover
import AccessNetwork.Proofs.Overriding
import AccessNetwork.Proofs.Fallback
import AccessNetwork.Proofs.Casing
import AccessNetwork.Proofs.Switches
import AccessNetwork.Proofs.Quotients
import AccessNetwork.Proofs.Fairness
import AccessNetwork.Proofs.ExactDraw
import AccessNetwork.Proofs.Periods
import AccessNetwork.Proofs.Ancestry
import AccessNetwork.Proofs.Independence
