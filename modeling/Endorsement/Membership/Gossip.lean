import Endorsement.Identity.Register
import Endorsement.Membership.Basic

/-!
# Membership as gossip knows it

Gossip names the members of a channel by their PKI IDs; the identity register
knows their organisations. A member becomes a peer of its organisation, or is
left out for as long as its organisation is not known.

* `Gossip.View`: the members that gossip knows;
* `Member.peer`: a member as a peer of an organisation;
* `Gossip.View.source`: the view as a source of memberships.
-/

namespace Endorsement

/-- A member as a peer of an organisation, with what is known of it on the
    channel. -/
def Member.peer (member : Member) (mspId : String) : Peer where
  url := member.endpoint
  mspId
  ledgerHeight := member.properties.map MemberProperties.ledgerHeight
  roles := (member.properties.map MemberProperties.roles).getD []

/-- Who knows the members that are alive, asked in `m`. -/
structure Gossip.View (m : Type → Type) where
  /-- All members. -/
  members : m (List Member)
  /-- The members on a channel. -/
  membersOfChannel : String → m (Except Failure (List Member))

namespace Member

/-- The peers that members are, by a register; those of unknown organisations
    are left out. -/
def peers (register : Identity.Register) : List Member → Logged (List Peer)
  | [] => return []
  | member :: rest => do
    let mspId ← register.mspId member.pkiId
    if mspId = "" then
      report (.memberSkipped member.endpoint)
      peers register rest
    else return member.peer mspId :: (← peers register rest)

end Member

variable {m : Type → Type} [Monad m] [MonadLiftT Logged m]

/-- A view as a source of memberships, with the register of the moment. -/
def Gossip.View.source (view : Gossip.View m) (register : m Identity.Register) :
    Membership.Source m where
  allPeers := do
    let members ← view.members
    return .ok (← Member.peers (← register) members)
  peersOfChannel channel := do
    match ← view.membersOfChannel channel with
    | .error failure => return .error failure
    | .ok members => return .ok (← Member.peers (← register) members)

end Endorsement
