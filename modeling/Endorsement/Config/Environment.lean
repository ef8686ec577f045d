import Endorsement.Config.Basic
import Endorsement.Environment
import Endorsement.Text.Decimal

/-!
# Settings from the environment

Each setting has a variable; settings without one keep their defaults. The
variables are read in a fixed order, and the first that cannot be read is
reported. Only what could be read as a whole is checked.

* `Config.readLifetime`, `Config.readBalance`, `Config.readPort`,
  `Config.readPolling`: one variable each;
* `Config.ofEnvironment`: all settings.
-/

namespace Endorsement.Config

/-- The lifetime in milliseconds. -/
def readLifetime (env : Environment) (config : Config) : Except Fault Config :=
  match env.text? "ES_MEMBERSHIP_CACHE_TTL_MS" with
  | none => .ok config
  | some text =>
    match Text.unsigned? Text.limit64 text with
    | none => .error (.badLifetime text)
    | some millis => .ok { config with lifetime := .ofMillis millis }

/-- The name of the way to choose. -/
def readBalance (env : Environment) (config : Config) : Except Fault Config :=
  match env.text? "ES_LOAD_BALANCE_POLICY" with
  | none => .ok config
  | some text => (Balance.ofName text).map fun balance => { config with balance }

/-- The event port. -/
def readPort (env : Environment) (config : Config) : Except Fault Config :=
  match env.text? "ES_EVENT_PORT" with
  | none => .ok config
  | some text =>
    match Text.unsigned? Text.limit16 text with
    | none => .error (.badPort text)
    | some port => .ok { config with eventPort := UInt16.ofNat port }

/-- Whether members are asked for in the background. -/
def readPolling (env : Environment) (config : Config) : Config :=
  match env.text? "ES_POLLING_ENABLED" with
  | none => config
  | some text => { config with pollingEnabled := !Text.isOff text }

/-- The settings that the environment gives. -/
def ofEnvironment (env : Environment) : Except Fault Config := do
  let config ← readLifetime env {}
  let config ← readBalance env config
  let config ← readPort env config
  let config := readPolling env config
  config.validate
  return config

end Endorsement.Config
