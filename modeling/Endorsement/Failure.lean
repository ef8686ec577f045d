import Endorsement.Text.Record
import Endorsement.Wire.Basic

/-!
# Failures of a selection

What can go wrong between a request for endorsers and its answer, as causes.
The wording of a cause is `Failure.message`; its coarse class, by which callers
decide whether to retry, is `Failure.kind`. A failure of a selection as a whole
wraps the cause that ended it, and has the class of that cause.

* `Failure`: the causes;
* `Failure.kind`, `Failure.message`, `Failure.name`, `Failure.text`: class,
  wording, name and full text of a failure;
* `Failure.sources`: the causes behind a failure, nearest first.
-/

namespace Endorsement

/-- The coarse class of a failure. -/
inductive FailureKind where
  /-- The caller asked for something unusable. -/
  | invalidInput
  /-- A collaborator failed to answer. -/
  | collaborator
  /-- Bytes hold no value of the expected type. -/
  | undecodable
  /-- There was an answer with nothing usable in it. -/
  | nothingFound
  deriving DecidableEq, Repr

/-- Why a selection, or a step of it, failed. -/
inductive Failure where
  /-- No chaincode was named. -/
  | noChaincodes
  /-- A threshold is not between one and the number of items to choose from. -/
  | badThreshold (threshold : Int32) (available : Nat)
  /-- A policy has no rule. -/
  | missingRule
  /-- A rule refers to an identity that the policy does not list. -/
  | noSuchPrincipal (index : Int32) (count : Nat)
  /-- A principal does not name an organisation. -/
  | unsupportedPrincipal (classification : String)
  /-- A policy has no alternatives. -/
  | noAlternatives
  /-- The data of a chaincode could not be looked up. -/
  | chaincodeQuery (channel chaincode reason : String)
  /-- The members of a channel could not be looked up. -/
  | membershipQuery (channel reason : String)
  /-- Bytes hold no value of the expected type. -/
  | undecodable (reason : String)
  /-- The members of a channel are known, and there are none. -/
  | noPeers (channel : String)
  /-- A setting was refused. -/
  | invalidConfig (reason : String)
  /-- The selection for a channel and its chaincodes failed. -/
  | endorsersUnavailable (channel chaincodes : String) (source : Failure)
  deriving DecidableEq, Repr

namespace Failure

/-- The failure to decode bytes. -/
def ofWire (fault : Wire.Fault) : Failure :=
  .undecodable fault.message

/-- The class of a failure; a failed selection has the class of its cause. -/
def kind : Failure → FailureKind
  | noChaincodes | badThreshold .. | missingRule | noSuchPrincipal .. | unsupportedPrincipal _
  | noAlternatives | invalidConfig _ => .invalidInput
  | chaincodeQuery .. | membershipQuery .. => .collaborator
  | undecodable _ => .undecodable
  | noPeers _ => .nothingFound
  | endorsersUnavailable _ _ source => source.kind

/-- The wording of a failure. -/
def message : Failure → String
  | noChaincodes => "at least one chaincode ID is required"
  | badThreshold threshold available =>
    "invalid threshold " ++ toString threshold.toInt ++ " for " ++ toString available ++ " items"
  | missingRule => "signature policy has no rule"
  | noSuchPrincipal index count =>
    "principal index " ++ toString index.toInt ++ " out of range (" ++ toString count ++
      " identities)"
  | unsupportedPrincipal classification =>
    "unsupported principal classification: " ++ classification
  | noAlternatives => "policy yields no endorsement alternatives"
  | chaincodeQuery channel chaincode reason =>
    "error querying chaincode data for " ++ chaincode ++ " on channel " ++ channel ++ ": " ++ reason
  | membershipQuery channel reason =>
    "error querying membership of channel " ++ channel ++ ": " ++ reason
  | undecodable reason => "unmarshal failure: " ++ reason
  | noPeers channel => "no peers available on channel " ++ channel
  | invalidConfig reason => "invalid configuration: " ++ reason
  | endorsersUnavailable channel chaincodes source =>
    "could not get endorsers for chaincode(s) " ++ chaincodes ++ " on channel " ++ channel ++ ": " ++
      source.message

/-- The causes behind a failure, nearest first. -/
def sources : Failure → List Failure
  | endorsersUnavailable _ _ source => source :: source.sources
  | _ => []

/-- The name of a cause. -/
def name : Failure → String
  | noChaincodes => "NoChaincodes"
  | badThreshold .. => "InvalidThreshold"
  | missingRule => "MissingPolicy"
  | noSuchPrincipal .. => "PrincipalIndexOutOfRange"
  | unsupportedPrincipal _ => "UnsupportedPrincipal"
  | noAlternatives => "EmptyPolicy"
  | chaincodeQuery .. => "ChaincodeQuery"
  | membershipQuery .. => "MembershipQuery"
  | undecodable _ => "Unmarshal"
  | noPeers _ => "NoPeers"
  | invalidConfig _ => "InvalidConfig"
  | endorsersUnavailable .. => "EndorsersUnavailable"

/-- A failure with all its details, on one line. -/
def text (failure : Failure) : String :=
  match failure with
  | noChaincodes | missingRule | noAlternatives => failure.name
  | badThreshold threshold available =>
    Text.record failure.name
      [("threshold", toString threshold.toInt), ("available", toString available)]
  | noSuchPrincipal index count =>
    Text.record failure.name [("index", toString index.toInt), ("count", toString count)]
  | unsupportedPrincipal reason | undecodable reason | invalidConfig reason =>
    Text.wrapped failure.name (Text.quoted reason)
  | chaincodeQuery channel chaincode reason =>
    Text.record failure.name
      [("channel_id", Text.quoted channel), ("chaincode_id", Text.quoted chaincode),
        ("reason", Text.quoted reason)]
  | membershipQuery channel reason =>
    Text.record failure.name [("channel_id", Text.quoted channel), ("reason", Text.quoted reason)]
  | noPeers channel => Text.record failure.name [("channel_id", Text.quoted channel)]
  | endorsersUnavailable channel chaincodes source =>
    Text.record failure.name
      [("channel_id", Text.quoted channel), ("chaincodes", Text.quoted chaincodes),
        ("source", source.text)]

end Failure

end Endorsement
