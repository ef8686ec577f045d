import Endorsement.Failure
import Endorsement.Gossip
import Endorsement.Peer

/-!
# Membership of channels

Which peers are on a channel is asked of a source; what a selection works with
is a snapshot of it. A snapshot may have both peers and a failure: then the
latest query failed, and the peers are those last known.

* `Membership`: a snapshot of a channel;
* `Membership.isHardFailure`: whether a snapshot is of no use;
* `Membership.Source`: who is asked;
* `Member`: a member of a channel as gossip knows it.
-/

namespace Endorsement

/-- The peers of a channel, as far as they are known. -/
structure Membership where
  peers : List Peer
  /-- The failure of the latest query, if it failed. -/
  queryFailure : Option Failure := none
  /-- Whether members are asked for in the background. -/
  pollingEnabled : Bool := false
  deriving DecidableEq, Repr

/-- A snapshot is of no use if the query failed and no peers are known. -/
def Membership.isHardFailure (s : Membership) : Bool :=
  s.queryFailure.isSome && s.peers.isEmpty

/-- Who knows the peers of all channels, asked in `m`. -/
structure Membership.Source (m : Type → Type) where
  /-- All peers there are. -/
  allPeers : m (Except Failure (List Peer))
  /-- The peers of a channel. -/
  peersOfChannel : String → m (Except Failure (List Peer))

/-- What gossip knows of a member on a channel. -/
structure MemberProperties where
  ledgerHeight : UInt64
  roles : List String
  deriving DecidableEq, Repr

/-- A member as gossip knows it. -/
structure Member where
  endpoint : String
  pkiId : Gossip.PkiId
  /-- What is known of it on the channel asked about. -/
  properties : Option MemberProperties := none
  deriving DecidableEq, Repr

end Endorsement
