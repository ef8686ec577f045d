import Endorsement.Event
import Endorsement.Table

/-!
# The identity register

Gossip knows peers by their PKI IDs. The register holds, for every PKI ID heard
of, the organisation it belongs to: the one named last. It learns them from
identity messages, skips what it cannot read, and never forgets.

* `Register`, `Register.mspId`, `Register.upsert`: the register, the
  organisation of a PKI ID, and setting it;
* `Register.handle`: applies a message;
* `Register.run`: applies all messages of a stream.
-/

namespace Endorsement.Identity

open Gossip

/-- The organisation of every PKI ID heard of. -/
abbrev Register := Table PkiId String

/-- The PKI ID and the organisation that an envelope names. -/
def readEnvelope (e : Envelope) : Except Failure (PkiId × String) := do
  let identity ← PeerIdentity.ofEnvelope e
  return (identity.pkiId, ← identity.mspId)

namespace Register

/-- The organisation of a PKI ID; the empty text if it was never heard of. -/
def mspId (pkiId : PkiId) (register : Register) : Logged String :=
  match register.find? pkiId with
  | some mspId => return mspId
  | none => do
    report (.mspUnknown pkiId)
    return ""

/-- Sets the organisation of a PKI ID. Nothing happens if it is known already. -/
def upsert (pkiId : PkiId) (mspId : String) : Act Register Unit := do
  let register ← get
  match register.find? pkiId with
  | none =>
    set (register.insert pkiId mspId)
    report (.mappingAdded pkiId mspId)
  | some old =>
    if old = mspId then return
    set (register.insert pkiId mspId)
    report (.mappingOverridden pkiId old mspId)

/-- Applies an envelope, unless it cannot be read. -/
def apply (e : Envelope) : Act Register Unit :=
  match readEnvelope e with
  | .ok (pkiId, mspId) => upsert pkiId mspId
  | .error failure => report (.identitySkipped failure)

/-- Applies envelopes, one after the other. -/
def applyAll : List Envelope → Act Register Unit
  | [] => return
  | e :: rest => do
    apply e
    applyAll rest

/-- Applies the identities that a message spreads; other messages are ignored. -/
def handle (message : Message) : Act Register Unit :=
  match message.content with
  | .dataUpdate .identity data => applyAll data
  | _ => return

/-- Applies messages, one after the other. -/
def handleAll : List Message → Act Register Unit
  | [] => return
  | message :: rest => do
    handle message
    handleAll rest

/-- Listens to a stream of messages up to its end. -/
def run (messages : List Message) : Act Register Unit := do
  report .listenerStarted
  handleAll (messages.filter Message.isIdentityUpdate)
  report .listenerEnded

end Register

end Endorsement.Identity
