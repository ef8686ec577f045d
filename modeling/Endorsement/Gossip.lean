import Endorsement.Failure
import Endorsement.Text.Hex

/-!
# Gossip messages

Peers spread their identities by gossip. At that level a peer is known by an
opaque identifier, its PKI ID; an identity message carries, for each of a
number of peers, the PKI ID and a certificate, from which the organisation of
the peer is read.

* `PkiId`, `Envelope`, `Content`, `Message`: the messages and their wire format;
* `Message.isIdentityUpdate`: whether a message spreads identities;
* `PeerIdentity`, `Certificate`: what the envelopes of such a message hold;
* `Message.identityUpdate`: a message that spreads the given identities.
-/

namespace Endorsement.Gossip

/-! ## Identifiers -/

/-- The identifier of a peer in gossip. -/
structure PkiId where
  bytes : List UInt8
  deriving DecidableEq, Repr

namespace PkiId

/-- An identifier is shown in hexadecimal. -/
def text (id : PkiId) : String :=
  Text.hex id.bytes

/-- Identifiers are ordered by their bytes, the first difference deciding. -/
def le (a b : PkiId) : Bool :=
  decide (a.bytes ≤ b.bytes)

instance : Wire PkiId where
  encode id := Wire.encode id.bytes
  decode := do return ⟨← Wire.decode⟩

end PkiId

/-! ## Messages -/

/-- What the envelopes of a data update hold. -/
inductive PullKind where
  /-- Unset. -/
  | undefined
  /-- Blocks. -/
  | block
  /-- Identities of peers. -/
  | identity
  deriving DecidableEq, Repr

instance : Wire PullKind where
  encode
    | .undefined => Wire.encodeForm 0
    | .block => Wire.encodeForm 1
    | .identity => Wire.encodeForm 2
  decode := do
    match ← Wire.decodeForm 3 with
    | 0 => return .undefined
    | 1 => return .block
    | 2 => return .identity

/-- A signed payload. -/
structure Envelope where
  payload : List UInt8
  signature : List UInt8
  deriving DecidableEq, Repr

instance : Wire Envelope where
  encode e := Wire.encode e.payload ++ Wire.encode e.signature
  decode := do
    let payload ← Wire.decode
    let signature ← Wire.decode
    return { payload, signature }

/-- The body of a message. -/
inductive Content where
  /-- Data pulled from other peers. -/
  | dataUpdate (kind : PullKind) (data : List Envelope)
  /-- A sign of life of a peer. -/
  | alive (pkiId : PkiId)
  /-- Anything else. -/
  | other
  deriving DecidableEq, Repr

instance : Wire Content where
  encode
    | .dataUpdate kind data => Wire.encodeForm 0 ++ Wire.encode kind ++ Wire.encode data
    | .alive pkiId => Wire.encodeForm 1 ++ Wire.encode pkiId
    | .other => Wire.encodeForm 2
  decode := do
    match ← Wire.decodeForm 3 with
    | 0 =>
      let kind ← Wire.decode
      let data ← Wire.decode
      return .dataUpdate kind data
    | 1 => return .alive (← Wire.decode)
    | 2 => return .other

/-- A message received by gossip. -/
structure Message where
  /-- The tag of the channel, empty for none. -/
  channel : List UInt8
  content : Content
  deriving DecidableEq, Repr

instance : Wire Message where
  encode m := Wire.encode m.channel ++ Wire.encode m.content
  decode := do
    let channel ← Wire.decode
    let content ← Wire.decode
    return { channel, content }

/-- A message spreads identities if it is a data update of that kind. -/
def Message.isIdentityUpdate (m : Message) : Bool :=
  match m.content with
  | .dataUpdate .identity _ => true
  | _ => false

/-! ## Identities -/

/-- The certificate of a peer: the organisation that issued it, and its bytes. -/
structure Certificate where
  mspId : String
  bytes : List UInt8
  deriving DecidableEq, Repr

instance : Wire Certificate where
  encode c := Wire.encode c.mspId ++ Wire.encode c.bytes
  decode := do
    let mspId ← Wire.decode
    let bytes ← Wire.decode
    return { mspId, bytes }

/-- The identity of a peer as spread by gossip. -/
structure PeerIdentity where
  pkiId : PkiId
  /-- The encoded certificate. -/
  certificate : List UInt8
  deriving DecidableEq, Repr

namespace PeerIdentity

instance : Wire PeerIdentity where
  encode i := Wire.encode i.pkiId ++ Wire.encode i.certificate
  decode := do
    let pkiId ← Wire.decode
    let certificate ← Wire.decode
    return { pkiId, certificate }

/-- The identity of a peer of an organisation. -/
def ofMsp (pkiId : PkiId) (mspId : String) : PeerIdentity :=
  ⟨pkiId, Wire.encode (Certificate.mk mspId [])⟩

/-- The identity held by an envelope. -/
def ofEnvelope (e : Envelope) : Except Failure PeerIdentity :=
  (Wire.read PeerIdentity e.payload).mapError Failure.ofWire

/-- The organisation that the certificate belongs to. -/
def mspId (i : PeerIdentity) : Except Failure String :=
  ((Wire.read Certificate i.certificate).map Certificate.mspId).mapError Failure.ofWire

end PeerIdentity

/-- The message that spreads the given identities. -/
def Message.identityUpdate (identities : List PeerIdentity) : Message where
  channel := []
  content := .dataUpdate .identity (identities.map fun i => ⟨Wire.encode i, []⟩)

end Endorsement.Gossip
