import Endorsement.Gossip
import Endorsement.Peer
import Endorsement.Selection.Key
import Endorsement.Config.Basic

/-!
# Events

What the library reports while it works. Events are data; how one is logged,
with its level, its message and its fields as text, is `Event.level`,
`Event.message` and `Event.fields`. Actions that report are pure: they answer a
value together with the events, oldest first (`Logged`).

* `Event`: what is reported;
* `Logged`, `report`: a value with the events on the way to it.
-/

namespace Endorsement

/-- How important an event is. -/
inductive Level where
  | error
  | warn
  | info
  | debug
  | trace
  deriving DecidableEq, Repr

/-- The name of a level. -/
def Level.name : Level → String
  | .error => "ERROR"
  | .warn => "WARN"
  | .info => "INFO"
  | .debug => "DEBUG"
  | .trace => "TRACE"

/-- Something that happened. -/
inductive Event where
  /-- A rule that asks for a signature was compiled. -/
  | leafCompiled (mspId : String)
  /-- The policy of a chaincode was compiled. -/
  | policyCompiled (chaincode version : String)
  /-- A request found no resolver and builds one. -/
  | resolverMissing (key : Selection.Key)
  /-- A resolver was built. -/
  | resolverBuilt (alternatives : Nat)
  /-- A resolver is about to choose among its candidates. -/
  | resolving (candidates : Nat)
  /-- The endorsers of a request were chosen. -/
  | endorsersSelected (key : Selection.Key) (urls : List String)
  /-- A peer to receive events from was chosen. -/
  | eventSourceSelected (channel : String) (peer : Peer) (address : String)
  /-- All resolvers are dropped. -/
  | resolversCleared (count : Nat)
  /-- Chaincode data is looked up at its provider. -/
  | chaincodeQueried (channel chaincode : String)
  /-- A channel is asked about for the first time. -/
  | channelCacheCreated (channel : String)
  /-- The members of a channel are unknown. -/
  | membershipFailed (channel : String) (cause : Failure)
  /-- The members of a channel are those last known. -/
  | membershipStale (channel : String) (cause : Failure) (peers : Nat)
  /-- A member was left out, its organisation being unknown. -/
  | memberSkipped (endpoint : String)
  /-- No organisation is known for an identifier. -/
  | mspUnknown (pkiId : Gossip.PkiId)
  /-- An identifier got its organisation. -/
  | mappingAdded (pkiId : Gossip.PkiId) (mspId : String)
  /-- An identifier got another organisation. -/
  | mappingOverridden (pkiId : Gossip.PkiId) (oldMspId newMspId : String)
  /-- An identity was left out, its bytes being unreadable. -/
  | identitySkipped (cause : Failure)
  /-- A listener starts to read identities. -/
  | listenerStarted
  /-- A listener has read all identities there will be. -/
  | listenerEnded
  /-- A selection context was set up. -/
  | contextCreated (lifetime : Duration) (balance : Balance)
  deriving DecidableEq, Repr

namespace Event

/-- The level of an event. -/
def level : Event → Level
  | membershipFailed .. => .error
  | membershipStale .. | mspUnknown _ | identitySkipped _ => .warn
  | resolversCleared _ | mappingAdded .. | mappingOverridden .. | contextCreated .. => .info
  | _ => .debug

/-- The message of an event. -/
def message : Event → String
  | leafCompiled _ => "Compiled SignedBy leaf"
  | policyCompiled .. => "Compiled endorsement policy"
  | resolverMissing _ => "Resolver cache miss, building resolver"
  | resolverBuilt _ => "Built peer group resolver"
  | resolving _ => "Resolving peer group"
  | endorsersSelected .. => "Selected endorsers"
  | eventSourceSelected .. => "Selected event source"
  | resolversCleared _ => "Clearing resolver cache"
  | chaincodeQueried .. => "Querying chaincode data"
  | channelCacheCreated _ => "Creating channel membership cache"
  | membershipFailed .. => "Membership query failed"
  | membershipStale .. => "Membership query failed, using last known peers"
  | memberSkipped _ => "Skipping member with unknown MSP"
  | mspUnknown _ => "MSP ID not found for PKI ID"
  | mappingAdded .. => "Added PKI ID mapping"
  | mappingOverridden .. => "Overriding PKI ID mapping"
  | identitySkipped _ => "Skipping undecodable peer identity"
  | listenerStarted => "PKI ID mapper listening for identity updates"
  | listenerEnded => "Identity update stream ended"
  | contextCreated .. => "Endorser selection context created"

/-- The fields of an event, each as text. -/
def fields : Event → List (String × String)
  | leafCompiled mspId => [("msp_id", mspId)]
  | policyCompiled chaincode version => [("chaincode", chaincode), ("version", version)]
  | resolverMissing key => [("key", key.text)]
  | resolverBuilt alternatives => [("alternatives", toString alternatives)]
  | resolving candidates => [("candidates", toString candidates)]
  | endorsersSelected key urls =>
    [("key", key.text), ("endorsers", Text.listing (urls.map Text.quoted))]
  | eventSourceSelected channel peer address =>
    [("channel_id", channel), ("peer", peer.label), ("event_address", address)]
  | resolversCleared count => [("resolvers", toString count)]
  | chaincodeQueried channel chaincode => [("channel_id", channel), ("chaincode", chaincode)]
  | channelCacheCreated channel => [("channel_id", channel)]
  | membershipFailed channel cause => [("channel_id", channel), ("error", cause.message)]
  | membershipStale channel cause peers =>
    [("channel_id", channel), ("error", cause.message), ("peers", toString peers)]
  | memberSkipped endpoint => [("endpoint", endpoint)]
  | mspUnknown pkiId => [("pki_id", pkiId.text)]
  | mappingAdded pkiId mspId => [("pki_id", pkiId.text), ("msp_id", mspId)]
  | mappingOverridden pkiId oldMspId newMspId =>
    [("pki_id", pkiId.text), ("old_msp_id", oldMspId), ("new_msp_id", newMspId)]
  | identitySkipped cause => [("error", cause.message)]
  | listenerStarted => []
  | listenerEnded => []
  | contextCreated lifetime balance =>
    [("ttl", lifetime.text), ("load_balance", balance.name)]

end Event

/-! ## Values with events -/

/-- A value together with the events reported on the way to it, oldest first. -/
structure Logged (α : Type) where
  value : α
  events : List Event
  deriving Repr

namespace Logged

instance : Monad Logged where
  pure a := ⟨a, []⟩
  bind x f :=
    let y := f x.value
    ⟨y.value, x.events ++ y.events⟩

instance : LawfulMonad Logged :=
  LawfulMonad.mk' Logged
    (fun x => by cases x; simp only [Functor.map, Function.comp_apply, List.append_nil, id])
    (fun _ _ => by simp only [bind, pure, List.nil_append])
    (fun _ _ _ => by simp only [bind, List.append_assoc])

@[simp] theorem value_pure {α : Type} (a : α) : (pure a : Logged α).value = a := rfl

@[simp] theorem events_pure {α : Type} (a : α) : (pure a : Logged α).events = [] := rfl

@[simp] theorem value_map {α β : Type} (f : α → β) (x : Logged α) : (f <$> x).value = f x.value :=
  rfl

@[simp] theorem value_bind {α β : Type} (x : Logged α) (f : α → Logged β) :
    (x >>= f).value = (f x.value).value := rfl

@[simp] theorem events_bind {α β : Type} (x : Logged α) (f : α → Logged β) :
    (x >>= f).events = x.events ++ (f x.value).events := rfl

end Logged

/-- Reports an event. -/
def report (event : Event) : Logged Unit := ⟨(), [event]⟩

/-- An action on a state `σ`: it may change the state, and reports what it does. -/
abbrev Act (σ : Type) := StateT σ Logged

end Endorsement
