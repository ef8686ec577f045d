import Endorsement.Chaincode.Cache
import Endorsement.Membership.Basic
import Endorsement.Policy.Compile
import Endorsement.Resolver

/-!
# Endorser selection

A request names a channel and some chaincodes, and is answered with peers of
that channel whose endorsements satisfy the policies of all the chaincodes at
once. The policies are compiled to a resolver when a key is first asked for;
the resolver is kept, with the state of its chooser, until all are dropped.

* `Collaborators`: who is asked for chaincode data, memberships and random
  numbers;
* `Service`: the resolvers kept;
* `Service.endorsers`: answers a request;
* `Service.eventSource`: a peer of a channel to receive events from;
* `Service.clear`: drops all resolvers.

An answer that is a failure names the channel and the chaincodes, unless no
chaincode was named at all. No peers at all is an answer, not a failure: then
no candidate is there at the moment.
-/

namespace Endorsement.Selection

/-- Who a service asks, in `m`. -/
structure Collaborators (m : Type → Type) where
  /-- The data of a chaincode. -/
  chaincode : ChaincodeProvider m
  /-- The peers of a channel. -/
  membership : String → m Membership
  /-- A random number. -/
  draw : m Nat

/-- The resolvers kept, each with the state of its chooser. -/
structure Service (ρ : Type) where
  resolvers : Table Key (Resolver ρ) := .empty

/-- A peer to receive events from, and its address for events. -/
structure EventSource where
  peer : Peer
  address : String
  deriving DecidableEq, Repr

/-- The failure of a request as a whole. -/
def unavailable (key : Key) (source : Failure) : Failure :=
  .endorsersUnavailable key.channel key.chaincodeText source

namespace Service

variable {m : Type → Type} [Monad m] [MonadLiftT Logged m] {ρ : Type}

/-! ## Building resolvers -/

/-- The compiled policy of a chaincode, as a group. -/
def policyGroup (ask : Collaborators m) (channel chaincode : String) : ExceptT Failure m Group := do
  let data ← ExceptT.mk (ask.chaincode channel chaincode)
  let groups ← ExceptT.mk (liftM (Policy.compileBytes data.policy).run)
  report (.policyCompiled chaincode data.version)
  return .any groups

/-- The compiled policies of chaincodes, one after the other up to the first
    failure. -/
def policyGroups (ask : Collaborators m) (channel : String) :
    List String → ExceptT Failure m (List Group)
  | [] => return []
  | chaincode :: rest => do
    let group ← policyGroup ask channel chaincode
    return group :: (← policyGroups ask channel rest)

/-- All of the groups, as the choice of as many as there are. -/
def allOf (groups : List Group) : Except Failure (List Group) :=
  if Policy.maxThreshold < groups.length then
    .error (.badThreshold (Int32.ofNat Policy.maxThreshold) groups.length)
  else Group.atLeast (Int32.ofNat groups.length) groups

/-- A new resolver for a key. -/
def build (ask : Collaborators m) (balancer : Balancer m ρ) (key : Key) :
    ExceptT Failure m (Resolver ρ) := do
  let groups ← policyGroups ask key.channel key.chaincodes
  let combined ← MonadExcept.ofExcept (allOf groups)
  let chooser ← balancer.fresh
  let alternatives ← ExceptT.mk (liftM (Resolver.alternativesOf combined).run)
  return { alternatives, chooser }

/-- The resolver kept for a key, or a new one, which is kept. -/
def resolver (ask : Collaborators m) (balancer : Balancer m ρ) (key : Key) :
    StateT (Service ρ) m (Except Failure (Resolver ρ)) := do
  match (← get).resolvers.find? key with
  | some resolver => return .ok resolver
  | none =>
    report (.resolverMissing key)
    match ← (build ask balancer key).run with
    | .error failure => return .error failure
    | .ok resolver =>
      modify fun service => { service with resolvers := service.resolvers.insert key resolver }
      return .ok resolver

/-! ## Answering requests -/

/-- The peers of an organisation on a channel, at the moment. -/
def peersOfMsp (ask : Collaborators m) (channel mspId : String) : m (List Peer) := do
  return (← ask.membership channel).peers.filter fun p => p.mspId == mspId

/-- The candidate chosen by the resolver of a key. -/
def resolve (ask : Collaborators m) (balancer : Balancer m ρ) (key : Key) (resolver : Resolver ρ) :
    StateT (Service ρ) m (List Peer) := do
  let (peers, resolver) ← resolver.resolve (m := m) (peersOfMsp ask key.channel) balancer
  -- The resolver is kept with the state of its chooser after the choice.
  modify fun service => { service with resolvers := service.resolvers.insert key resolver }
  report (.endorsersSelected key (peers.map Peer.url))
  return peers

/-- The failure that makes a snapshot useless, if there is one. -/
def hardFailure? (membership : Membership) : Option Failure :=
  if membership.isHardFailure then membership.queryFailure else none

/-- Peers that satisfy the policies of all the chaincodes at once. -/
def endorsers (ask : Collaborators m) (balancer : Balancer m ρ) (channel : String)
    (chaincodes : List String) : StateT (Service ρ) m (Except Failure (List Peer)) := do
  if chaincodes.isEmpty then return .error .noChaincodes
  let key := Key.ofRequest channel chaincodes
  match ← resolver ask balancer key with
  | .error failure => return .error (unavailable key failure)
  | .ok resolver =>
    match hardFailure? (← ask.membership channel) with
    | some failure => return .error (unavailable key failure)
    | none => return .ok (← resolve ask balancer key resolver)

/-- Any peer of a channel, at random, addressed at the port for events. -/
def eventSource (ask : Collaborators m) (config : Config) (channel : String) :
    m (Except Failure EventSource) := do
  let membership ← ask.membership channel
  match hardFailure? membership with
  | some failure => return .error failure
  | none =>
    let peers := membership.peers
    if peers.isEmpty then return .error (.noPeers channel)
    match peers[(← ask.draw) % peers.length]? with
    | none => return .error (.noPeers channel)
    | some peer =>
      let address := peer.host ++ ":" ++ toString config.eventPort.toNat
      report (.eventSourceSelected channel peer address)
      return .ok { peer, address }

/-- The number of resolvers kept. -/
def resolverCount (service : Service ρ) : Nat := service.resolvers.size

/-- Drops all resolvers. -/
def clear : StateT (Service ρ) m Unit := do
  report (.resolversCleared (← get).resolverCount)
  set ({} : Service ρ)

end Service

end Endorsement.Selection
