import Endorsement.Text.Record
import Endorsement.Wire.Basic

/-!
# Peers

A peer is a network node of an organisation, the organisation being named by
the identifier of its membership service provider (MSP). On a channel it may
be known at which height its ledger stands and which roles it takes.

* `Peer.host`: the host part of its endpoint, without scheme and port;
* `Peer.label`, `Peer.text`: how it is shown;
* `Peer.le`: the order in which peers are listed;
* the wire format of peers.
-/

namespace Endorsement

/-- A network node as seen by endorser selection. -/
structure Peer where
  /-- The endpoint, a host and a port. -/
  url : String
  /-- The organisation of the peer. -/
  mspId : String
  /-- The height of its ledger on the channel asked about, if known. -/
  ledgerHeight : Option UInt64 := none
  /-- Its roles on the channel asked about. -/
  roles : List String := []
  deriving DecidableEq, Repr

namespace Peer

/-- What follows the first `://` of an endpoint, if there is one. -/
def afterScheme? : List Char → Option (List Char)
  | [] => none
  | ':' :: '/' :: '/' :: rest => some rest
  | _ :: rest => afterScheme? rest

/-- What precedes the last `:` of an address, if there is one. -/
def beforePort? : List Char → Option (List Char)
  | [] => none
  | c :: rest =>
    match beforePort? rest with
    | some host => some (c :: host)
    | none => if c = ':' then some [] else none

/-- The host of an endpoint: without the scheme, and up to the last `:`. -/
def host (p : Peer) : String :=
  let url := p.url.toList
  let address := (afterScheme? url).getD url
  String.ofList ((beforePort? address).getD address)

/-- The endpoint and the organisation of a peer. -/
def label (p : Peer) : String :=
  p.url ++ " (" ++ p.mspId ++ ")"

/-- All that is known of a peer, on one line. -/
def text (p : Peer) : String :=
  Text.record "Peer"
    [("url", Text.quoted p.url), ("msp_id", Text.quoted p.mspId),
      ("ledger_height", Text.optional (p.ledgerHeight.map fun h => toString h.toNat)),
      ("roles", Text.listing (p.roles.map Text.quoted))]

/-- Peers are ordered by endpoint, organisation, ledger height, unknown heights
    first, and roles. -/
def le (a b : Peer) : Bool :=
  if a.url ≠ b.url then a.url < b.url
  else if a.mspId ≠ b.mspId then a.mspId < b.mspId
  else if a.ledgerHeight ≠ b.ledgerHeight then
    match a.ledgerHeight, b.ledgerHeight with
    | none, _ => true
    | some _, none => false
    | some x, some y => x < y
  else !decide (b.roles < a.roles)

instance : Wire Peer where
  encode p := Wire.encode p.url ++ Wire.encode p.mspId ++ Wire.encode p.ledgerHeight ++
    Wire.encode p.roles
  decode := do
    let url ← Wire.decode
    let mspId ← Wire.decode
    let ledgerHeight ← Wire.decode
    let roles ← Wire.decode
    return { url, mspId, ledgerHeight, roles }

end Peer

end Endorsement
