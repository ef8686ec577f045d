import Endorsement.Chaincode.Concurrent
import Endorsement.Config.Document
import Endorsement.Config.Environment
import Endorsement.Expiring.Concurrent
import Endorsement.InMemory
import Endorsement.Logging.Install
import Endorsement.Selection.Context
import Endorsement.Proofs.Group.Equality
import Endorsement.Proofs.Group.Distinct
import Endorsement.Proofs.Group.Meaning
import Endorsement.Proofs.Product
import Endorsement.Proofs.Group.Alternatives
import Endorsement.Proofs.Group.Collapse
import Endorsement.Proofs.Group.Expansion
import Endorsement.Proofs.Group.Offers
import Endorsement.Proofs.Resolver
import Endorsement.Proofs.Policy.Meaning
import Endorsement.Proofs.Policy.Rewriting
import Endorsement.Proofs.Policy.WellFormed
import Endorsement.Proofs.Running
import Endorsement.Proofs.Selection.Joint
import Endorsement.Proofs.Selection.Candidates
import Endorsement.Proofs.Selection.Endorsers
import Endorsement.Proofs.Wire.Basic
import Endorsement.Proofs.Wire.Types
import Endorsement.Proofs.Wire.Laws
import Endorsement.Proofs.Identity.Register
import Endorsement.Proofs.Identity.Listener
import Endorsement.Proofs.Expiring
import Endorsement.Proofs.Membership.Cells
import Endorsement.Proofs.Membership.Loads
import Endorsement.Proofs.Selection.Requests
import Endorsement.Proofs.Selection.Run
import Endorsement.Proofs.Selection.Governing
import Endorsement.Proofs.Selection.Attribution
import Endorsement.Proofs.Selection.Transcript
import Endorsement.Proofs.Selection.Builds
import Endorsement.Proofs.Selection.Lookups
import Endorsement.Proofs.Selection.Failures
import Endorsement.Proofs.Rotation
import Endorsement.Proofs.Selection.RoundRobin
import Endorsement.Proofs.Selection.Delivery
import Endorsement.Proofs.Chaincode.Invalidation
import Endorsement.Proofs.Chaincode.Memo
import Endorsement.Proofs.Expiring.Loads
import Endorsement.Proofs.Expiring.SingleLoad
import Endorsement.Proofs.Identity.Journal
import Endorsement.Proofs.Policy.AnyMember
import Endorsement.Proofs.Selection.Keys
import Endorsement.Proofs.Product.Enumeration
import Endorsement.Proofs.Text.Decimal
import Endorsement.Proofs.Config.Environment
import Endorsement.Proofs.Peer
import Endorsement.Proofs.Selection.EventSource
import Endorsement.Proofs.Product.Selections
import Endorsement.Proofs.Group.Threshold
