import Endorsement.Expiring
import Endorsement.Membership.Basic
import Endorsement.Table

/-!
# Remembered membership

The answers of a membership source are remembered for a lifetime: those for all
peers in one cell, those for each channel in a cell of its own. A query that
fails keeps the peers that were known before, and the failure beside them.

* `Snapshot.reload`: the snapshot after a query, given the one before;
* `MembershipCache`: the cells;
* `MembershipCache.allPeers`, `MembershipCache.peersOfChannel`: the peers, or
  the failure if none are known;
* `MembershipCache.membership`: the same as a snapshot with its failure;
* `MembershipCache.invalidate`: makes every cell ask again.
-/

namespace Endorsement

/-- The peers known, and the failure of the latest query, if it failed. -/
structure Snapshot where
  peers : List Peer
  failure : Option Failure
  deriving DecidableEq, Repr

namespace Snapshot

/-- The snapshot after a query. If it failed, the peers are those known before. -/
def reload (previous : Option Snapshot) : Except Failure (List Peer) → Snapshot
  | .ok peers => ⟨peers, none⟩
  | .error failure => ⟨(previous.map Snapshot.peers).getD [], some failure⟩

/-- The peers, unless the query failed and none are known. -/
def usable (s : Snapshot) : Except Failure (List Peer) :=
  match s.failure with
  | some failure => if s.peers.isEmpty then .error failure else .ok s.peers
  | none => .ok s.peers

end Snapshot

/-- What is remembered of the members of channels. -/
structure MembershipCache where
  /-- All peers. -/
  all : Expiring Snapshot := {}
  /-- The peers of each channel that was asked about. -/
  channels : Table String (Expiring Snapshot) := .empty

namespace MembershipCache

/-- Makes every cell ask again. -/
def invalidate (cache : MembershipCache) : MembershipCache where
  all := cache.all.invalidate
  channels := cache.channels.map Expiring.invalidate

/-- How a cache asks: its source, the lifetime of answers, the clock, and
    whether members are asked for in the background. -/
structure Setup (m : Type → Type) where
  source : Membership.Source m
  lifetime : Duration
  clock : m Moment
  pollingEnabled : Bool

variable {m : Type → Type} [Monad m] [MonadLiftT Logged m]

/-- The snapshot of all peers. -/
def allSnapshot (setup : Setup m) : StateT MembershipCache m Snapshot := do
  let cache ← get
  let (snapshot, all) ← cache.all.get setup.lifetime setup.clock fun previous => do
    return Snapshot.reload previous (← setup.source.allPeers)
  set { cache with all }
  return snapshot

/-- The cell of a channel; a channel never asked about gets one. -/
def cell (channel : String) : StateT MembershipCache m (Expiring Snapshot) := do
  match (← get).channels.find? channel with
  | some cell => return cell
  | none =>
    report (.channelCacheCreated channel)
    return {}

/-- The snapshot of a channel. -/
def channelSnapshot (setup : Setup m) (channel : String) : StateT MembershipCache m Snapshot := do
  let cell ← cell channel
  let (snapshot, cell) ← cell.get setup.lifetime setup.clock fun previous => do
    return Snapshot.reload previous (← setup.source.peersOfChannel channel)
  modify fun cache => { cache with channels := cache.channels.insert channel cell }
  return snapshot

/-- All peers, or the failure if none are known. -/
def allPeers (setup : Setup m) : StateT MembershipCache m (Except Failure (List Peer)) := do
  return (← allSnapshot setup).usable

/-- The peers of a channel, or the failure if none are known. -/
def peersOfChannel (setup : Setup m) (channel : String) :
    StateT MembershipCache m (Except Failure (List Peer)) := do
  return (← channelSnapshot setup channel).usable

/-- What a snapshot with a failure reports. -/
def reportFailure (channel : String) (snapshot : Snapshot) : Logged Unit :=
  match snapshot.failure with
  | none => return
  | some failure =>
    if snapshot.peers.isEmpty then report (.membershipFailed channel failure)
    else report (.membershipStale channel failure snapshot.peers.length)

/-- The membership of a channel. -/
def membership (setup : Setup m) (channel : String) : StateT MembershipCache m Membership := do
  let snapshot ← channelSnapshot setup channel
  reportFailure channel snapshot
  return ⟨snapshot.peers, snapshot.failure, setup.pollingEnabled⟩

end MembershipCache

end Endorsement
