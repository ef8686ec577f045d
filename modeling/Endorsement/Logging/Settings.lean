import Endorsement.Environment
import Endorsement.Text.Case

/-!
# Settings of the log

* `Logging.Settings`: what is logged, and how;
* `Settings.ofEnvironment`: the settings that the environment gives. Every
  setting has a default, so there are always some;
* `Logging.Fault`: why logging cannot be set up.
-/

namespace Endorsement.Logging

/-- What is logged, and how. -/
structure Settings where
  /-- The name of the service, which the first entry shows. -/
  serviceName : String := "endorser-selection"
  /-- The directives that choose what is logged. -/
  level : String := "info"
  /-- Whether anything is written at all. -/
  consoleOutput : Bool := true
  /-- Whether entries are written as JSON. -/
  json : Bool := false
  deriving DecidableEq, Repr

namespace Settings

/-- Whether the environment is that of a container. -/
def inContainer (env : Environment) : Bool :=
  (env.text? "KUBERNETES_SERVICE_HOST").isSome || (env.text? "DOCKER_CONTAINER").isSome

/-- The settings that the environment gives. In a container, entries are
    written as JSON unless the environment says otherwise. -/
def ofEnvironment (env : Environment) : Settings where
  serviceName := (env.text? "ES_SERVICE_NAME").getD "endorser-selection"
  level := ((env.text? "ES_LOG_LEVEL").or (env.text? "RUST_LOG")).getD "info"
  consoleOutput := ((env.text? "ES_CONSOLE_OUTPUT").map fun text => !Text.isOff text).getD true
  json := ((env.text? "ES_JSON_LOGS").map Text.isOn).getD (inContainer env)

/-- The settings with other directives. -/
def withLevel (s : Settings) (level : String) : Settings := { s with level }

end Settings

/-- Why logging cannot be set up. -/
inductive Fault where
  /-- It is set up already. -/
  | alreadyInstalled (reason : String)
  /-- The directives cannot be read. -/
  | badDirectives (reason : String)
  deriving DecidableEq, Repr

/-- The wording of a fault. -/
def Fault.message : Fault → String
  | .alreadyInstalled reason => "Failed to install subscriber: " ++ reason
  | .badDirectives reason => "Invalid configuration: " ++ reason

end Endorsement.Logging
