import Endorsement.Chaincode.Cache
import Endorsement.Membership.Gossip

/-!
# Collaborators in memory

Collaborators that answer from tables which are set by hand, for use without a
network.

* `InMemory.Chaincodes`: chaincode data that was registered. Queries are
  counted, answered or not, and all of them can be made to fail;
* `InMemory.Network`: the peers of channels. Queries are counted, and all of
  them can be made to fail;
* `InMemory.Network.staticMembership`: the peers of channels as snapshots that
  never fail;
* `InMemory.Snapshots`: snapshots of channels that were set;
* `InMemory.Gossip`: the members that gossip knows. Queries are counted.
-/

namespace Endorsement.InMemory

/-! ## Chaincodes -/

/-- Registered chaincode data. -/
structure Chaincodes where
  data : Table (String × String) Chaincode := .empty
  /-- With what all queries fail, if they do. -/
  failing : Option Failure := none
  /-- The queries so far. -/
  queries : Nat := 0

namespace Chaincodes

/-- Registers the data of a chaincode on a channel under its name. -/
def insert (channel : String) (chaincode : Chaincode) (s : Chaincodes) : Chaincodes :=
  { s with data := s.data.insert (channel, chaincode.name) chaincode }

/-- The answer to a query. -/
def answer (s : Chaincodes) (channel chaincode : String) : Except Failure Chaincode :=
  match s.failing with
  | some failure => .error failure
  | none =>
    match s.data.find? (channel, chaincode) with
    | some data => .ok data
    | none => .error (.chaincodeQuery channel chaincode "chaincode not found")

/-- Answers queries, and counts them. -/
def provider : ChaincodeProvider (Act Chaincodes) := fun channel chaincode => do
  modify fun s => { s with queries := s.queries + 1 }
  return (← get).answer channel chaincode

end Chaincodes

/-! ## Peers of channels -/

/-- The peers of channels. -/
structure Network where
  channels : Table String (List Peer) := .empty
  /-- Whether all queries fail. -/
  failing : Bool := false
  /-- The queries so far. -/
  queries : Nat := 0

namespace Network

/-- Sets the peers of a channel. -/
def setPeers (channel : String) (peers : List Peer) (s : Network) : Network :=
  { s with channels := s.channels.insert channel peers }

/-- The peers of a channel; none, if they were never set. -/
def peers (s : Network) (channel : String) : List Peer :=
  (s.channels.find? channel).getD []

/-- All peers, each once. -/
def allPeers (s : Network) : List Peer :=
  s.channels.values.flatten.eraseDups

/-- Counts a query, and answers it unless queries fail. -/
def answer (channel : String) (found : Network → List Peer) :
    Act Network (Except Failure (List Peer)) := do
  modify fun s => { s with queries := s.queries + 1 }
  let s ← get
  if s.failing then return .error (.membershipQuery channel "gossip unavailable")
  else return .ok (found s)

/-- The network as a source of memberships. -/
def source : Membership.Source (Act Network) where
  allPeers := answer "" allPeers
  peersOfChannel channel := answer channel (·.peers channel)

/-- The snapshot of a channel as it is set, which never fails. -/
def staticMembership (s : Network) (channel : String) : Membership :=
  { peers := s.peers channel }

end Network

/-- The snapshots of channels. -/
abbrev Snapshots := Table String Membership

/-- The snapshot of a channel; one without peers, if it was never set. -/
def Snapshots.membership (s : Snapshots) (channel : String) : Membership :=
  (s.find? channel).getD { peers := [] }

/-! ## Members known to gossip -/

/-- The members that gossip knows. -/
structure Gossip where
  members : List Member := []
  /-- The members of the channels that were joined. -/
  channels : Table String (List Member) := .empty
  /-- The queries so far. -/
  queries : Nat := 0

namespace Gossip

/-- The members of a channel, if it was joined. -/
def answer (s : Gossip) (channel : String) : Except Failure (List Member) :=
  match s.channels.find? channel with
  | some members => .ok members
  | none => .error (.membershipQuery channel "channel not joined")

/-- Answers queries, and counts them. -/
def view : Endorsement.Gossip.View (Act Gossip) where
  members := do
    modify fun s => { s with queries := s.queries + 1 }
    return (← get).members
  membersOfChannel channel := do
    modify fun s => { s with queries := s.queries + 1 }
    return (← get).answer channel

end Gossip

end Endorsement.InMemory
