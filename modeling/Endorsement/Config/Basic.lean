import Endorsement.Duration
import Endorsement.Failure
import Endorsement.Text.Case

/-!
# Settings of endorser selection

* `Balance`: the built-in ways to choose one of several candidates, and their
  names;
* `Config`, `Config.validate`: the settings, and the conditions they meet;
* `Config.Fault`: why settings are refused.
-/

namespace Endorsement

/-- A built-in way to choose one of several candidates. -/
inductive Balance where
  /-- Any of them, at random. -/
  | random
  /-- Each in turn, from a random one on. -/
  | roundRobin
  deriving DecidableEq, Repr

/-- The name of a way to choose. -/
def Balance.name : Balance → String
  | .random => "Random"
  | .roundRobin => "RoundRobin"

/-- The settings of endorser selection. -/
structure Config where
  /-- For how long the members of a channel are remembered. -/
  lifetime : Duration := .ofMillis 500
  /-- How candidates are chosen. -/
  balance : Balance := .roundRobin
  /-- The port at which peers serve events. -/
  eventPort : UInt16 := 7053
  /-- Whether members are asked for in the background. -/
  pollingEnabled : Bool := true
  deriving DecidableEq, Repr

namespace Config

/-- Why settings are refused. -/
inductive Fault where
  /-- Members would not be remembered at all. -/
  | zeroLifetime
  /-- There is no event port. -/
  | zeroPort
  /-- The lifetime is no number of milliseconds. -/
  | badLifetime (text : String)
  /-- The port is no port number. -/
  | badPort (text : String)
  /-- There is no way to choose of that name. -/
  | unknownBalance (name : String)
  deriving DecidableEq, Repr

/-- The wording of a fault. -/
def Fault.message : Fault → String
  | .zeroLifetime => "membership cache TTL must be positive"
  | .zeroPort => "event port must be non-zero"
  | .badLifetime text => "bad ES_MEMBERSHIP_CACHE_TTL_MS: " ++ text
  | .badPort text => "bad ES_EVENT_PORT: " ++ text
  | .unknownBalance name => "unknown load balance policy: " ++ name

/-- A fault as a failure of the selection. -/
def Fault.failure (fault : Fault) : Failure :=
  .invalidConfig fault.message

/-- Checks that members are remembered and that there is an event port. -/
def validate (config : Config) : Except Fault Unit :=
  if config.lifetime = .zero then .error .zeroLifetime
  else if config.eventPort = 0 then .error .zeroPort
  else .ok ()

end Config

/-- The way to choose with a name, in any case of its letters. -/
def Balance.ofName (name : String) : Except Config.Fault Balance :=
  let known := Text.lower name
  if known = "random" then .ok .random
  else if known = "round_robin" ∨ known = "roundrobin" ∨ known = "round-robin" then .ok .roundRobin
  else .error (.unknownBalance known)

end Endorsement
