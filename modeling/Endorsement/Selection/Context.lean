import Endorsement.Identity.Listener
import Endorsement.Membership.Cache
import Endorsement.Membership.Gossip
import Endorsement.Part
import Endorsement.Selection.Service

/-!
# Selection contexts

A context is all that one client needs for endorser selection: a register of
identities fed by gossip, remembered memberships and chaincode data, and the
selection service on top of them.

    gossip view ──► source ──► membership cache ──► selection service
                      ▲                                  ▲
    identity gossip ──► register       provider ──► chaincode cache

* `Surroundings`: what a context relies on;
* `Stores`: what a context remembers, apart from the resolvers;
* `Context`, `Context.create`: the state of a context, and setting it up;
* `Context.endorsers`, `Context.eventSource`: answering requests;
* `Context.membership`, `Context.allPeers`, `Context.peersOfChannel`: asking
  the membership cache;
* `Context.invalidateMembership`, `Context.invalidateChaincode`,
  `Context.clearChaincodes`, `Context.clearResolvers`: forgetting what is
  remembered;
* `Context.onRegister`, `Context.listen`, `Context.send`, `Context.closeQueue`,
  `Context.shutDown`, `Context.drive`: the register of identities and the
  listeners that feed it.
-/

namespace Endorsement.Selection

/-- What a context relies on, asked in `m`. -/
structure Surroundings (m : Type → Type) where
  /-- The members that gossip knows. -/
  view : Gossip.View m
  /-- The data of a chaincode. -/
  chaincode : ChaincodeProvider m
  /-- A random number. -/
  draw : m Nat
  /-- The time of the moment. -/
  clock : m Moment

/-- What a context remembers, apart from the resolvers. -/
structure Stores where
  register : Identity.Register := .empty
  membership : MembershipCache := {}
  chaincodes : ChaincodeCache := .empty

/-- The state of a context. -/
structure Context where
  stores : Stores := {}
  service : Service Position := {}
  listeners : Identity.Listeners := {}

namespace Stores

variable {m : Type → Type} [Monad m]

/-- The register. -/
def registerPart : Part Stores Identity.Register :=
  ⟨Stores.register, fun register stores => { stores with register }⟩

/-- The membership cache. -/
def membershipPart : Part Stores MembershipCache :=
  ⟨Stores.membership, fun membership stores => { stores with membership }⟩

/-- The chaincode cache. -/
def chaincodesPart : Part Stores ChaincodeCache :=
  ⟨Stores.chaincodes, fun chaincodes stores => { stores with chaincodes }⟩

variable [MonadLiftT Logged m]

/-- How the membership cache of a context asks: gossip, by way of the register
    of the moment. -/
def membershipSetup (around : Surroundings m) (config : Config) (register : Identity.Register) :
    MembershipCache.Setup m where
  source := around.view.source (pure register)
  lifetime := config.lifetime
  clock := around.clock
  pollingEnabled := config.pollingEnabled

/-- Acts on the membership cache. The register does not change meanwhile. -/
def onMembership {α : Type} (around : Surroundings m) (config : Config)
    (action : MembershipCache.Setup m → StateT MembershipCache m α) : StateT Stores m α := do
  membershipPart.act (action (membershipSetup around config (← get).register))

/-- Who the service of a context asks: the caches. -/
def collaborators (around : Surroundings m) (config : Config) :
    Collaborators (StateT Stores m) where
  chaincode channel chaincode :=
    chaincodesPart.act (ChaincodeCache.query around.chaincode channel chaincode)
  membership channel := onMembership around config fun setup =>
    MembershipCache.membership setup channel
  draw := around.draw

end Stores

namespace Context

variable {m : Type → Type} [Monad m]

/-- What a context remembers, apart from the resolvers. -/
def storesPart : Part Context Stores :=
  ⟨Context.stores, fun stores context => { context with stores }⟩

/-- Acts on the service of a context and on what it remembers. -/
def onService {α : Type} (action : StateT (Service Position) (StateT Stores m) α) :
    StateT Context m α := fun context => do
  let ((a, service), stores) ← action context.service context.stores
  return (a, { context with service, stores })

/-! ## Setting up -/

/-- A new context, if its settings are valid. -/
def create (config : Config) : ExceptT Failure Logged Context := do
  MonadExcept.ofExcept (config.validate.mapError Config.Fault.failure)
  report (.contextCreated config.lifetime config.balance)
  return {}

/-! ## Answering requests -/

variable [MonadLiftT Logged m]

/-- Peers that satisfy the policies of all the chaincodes at once. -/
def endorsers (around : Surroundings m) (config : Config) (channel : String)
    (chaincodes : List String) : StateT Context m (Except Failure (List Peer)) :=
  onService (Service.endorsers (Stores.collaborators around config)
    (config.balance.balancer (m := StateT Stores m) around.draw) channel chaincodes)

/-- Any peer of a channel, at random, addressed at the port for events. -/
def eventSource (around : Surroundings m) (config : Config) (channel : String) :
    StateT Context m (Except Failure EventSource) :=
  storesPart.act (Service.eventSource (Stores.collaborators around config) config channel)

/-! ## Memberships -/

/-- The remembered membership of a channel. -/
def membership (around : Surroundings m) (config : Config) (channel : String) :
    StateT Context m Membership :=
  storesPart.act (Stores.onMembership around config fun setup => MembershipCache.membership setup channel)

/-- All peers remembered. -/
def allPeers (around : Surroundings m) (config : Config) :
    StateT Context m (Except Failure (List Peer)) :=
  storesPart.act (Stores.onMembership around config MembershipCache.allPeers)

/-- The peers of a channel remembered. -/
def peersOfChannel (around : Surroundings m) (config : Config) (channel : String) :
    StateT Context m (Except Failure (List Peer)) :=
  storesPart.act (Stores.onMembership around config fun setup =>
    MembershipCache.peersOfChannel setup channel)

/-- Makes every membership be asked for again. -/
def invalidateMembership (context : Context) : Context :=
  { context with stores.membership := context.stores.membership.invalidate }

/-! ## Chaincodes and resolvers -/

/-- Forgets the data of a chaincode. -/
def invalidateChaincode (channel chaincode : String) (context : Context) : Context :=
  { context with stores.chaincodes := context.stores.chaincodes.invalidate channel chaincode }

/-- Forgets the data of all chaincodes. -/
def clearChaincodes (context : Context) : Context :=
  { context with stores.chaincodes := context.stores.chaincodes.clear }

/-- Drops all resolvers. -/
def clearResolvers : StateT Context m Unit :=
  onService Service.clear

/-! ## Identities -/

/-- Acts on the register of identities. -/
def onRegister {α : Type} (action : StateT Identity.Register m α) : StateT Context m α :=
  storesPart.act (Stores.registerPart.act action)

/-- Starts a listener on a new queue, instead of the one at work. -/
def listen (context : Context) : Context :=
  { context with listeners := context.listeners.start }

/-- Sends a message to the queue of a listener. -/
def send (i : Nat) (message : Gossip.Message) (context : Context) : Context :=
  { context with listeners := context.listeners.send i message }

/-- Closes the queue of a listener. -/
def closeQueue (i : Nat) (context : Context) : Context :=
  { context with listeners := context.listeners.close i }

/-- Shuts down: the listener at work is stopped. -/
def shutDown (context : Context) : Context :=
  { context with listeners := context.listeners.stop }

/-- Drives all listeners. -/
def drive : Act Context Unit := do
  let listeners ← onRegister (m := Logged) (← get).listeners.drive
  modify fun context => { context with listeners }

end Context

end Endorsement.Selection
