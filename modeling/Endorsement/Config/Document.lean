import Endorsement.Config.Basic
import Endorsement.Toml.Document
import Endorsement.Text.Decimal

/-!
# Settings from a document

Settings are read from the table `selection` of a TOML document, or from a
table that holds them directly. Settings that are left out keep their defaults.
Other tables of the document are of no concern; other keys in the table of
settings are not allowed. The settings may also be given as an array, in their
order.

* `Config.ofTable`: settings from the keys of a table;
* `Config.ofItems`: settings from an array;
* `Config.ofDocument`: checked settings from a document;
* `Config.ofTableDocument`: unchecked settings from a document that is the
  table of settings itself.
-/

namespace Endorsement

namespace Config

open Toml

/-- Why a document gives no settings. -/
inductive DocumentFault where
  /-- The document is not valid, or does not hold settings. -/
  | unreadable
  /-- The settings are refused. -/
  | refused (fault : Fault)
  deriving DecidableEq, Repr

/-! ## Single settings -/

/-- A number of milliseconds. -/
def lifetimeOf : Node → Option Duration
  | .integer value => if 0 ≤ value then some (.ofMillis value.toNat) else none
  | _ => none

/-- A port. -/
def portOf : Node → Option UInt16
  | .integer value =>
    if 0 ≤ value ∧ value ≤ Text.limit16 then some (UInt16.ofNat value.toNat) else none
  | _ => none

/-- A switch. -/
def switchOf : Node → Option Bool
  | .boolean value => some value
  | _ => none

/-- The way to choose with exactly this name. -/
def balanceNamed (name : String) : Option Balance :=
  if name = "random" then some .random
  else if name = "round_robin" then some .roundRobin
  else none

/-- Whether a value holds nothing. -/
def isVoid : Node → Bool
  | .array items => items.isEmpty
  | .table _ _ entries => entries.isEmpty
  | .tableArray tables => tables.isEmpty
  | _ => false

/-- A way to choose: its name, or a table with its name as the only key, and
    nothing for it. -/
def balanceOf : Node → Option Balance
  | .text name => balanceNamed name
  | .table _ _ [(name, node)] => if isVoid node then balanceNamed name else none
  | _ => none

/-! ## All settings -/

/-- The names of the settings, in their order. -/
def settingNames : List String :=
  ["membership_cache_ttl_ms", "load_balance", "event_port", "polling_enabled"]

/-- Settings with one of them set, by its name. -/
def withSetting (config : Config) (name : String) (node : Node) : Option Config :=
  if name = "membership_cache_ttl_ms" then do return { config with lifetime := ← lifetimeOf node }
  else if name = "load_balance" then do return { config with balance := ← balanceOf node }
  else if name = "event_port" then do return { config with eventPort := ← portOf node }
  else if name = "polling_enabled" then do return { config with pollingEnabled := ← switchOf node }
  else none

/-- The settings that a table gives. -/
def ofTable (entries : Entries) : Option Config :=
  entries.foldlM (fun config (name, node) => config.withSetting name node) {}

/-- The settings that an array gives, in their order; more items are ignored. -/
def ofItems (items : List Node) : Option Config :=
  ofTable (settingNames.zip items)

/-- The settings that a value gives. -/
def ofNode : Node → Option Config
  | .table _ _ entries => ofTable entries
  | .array items => ofItems items
  | .tableArray tables => ofItems tables
  | _ => none

/-! ## Documents -/

/-- The settings that a valid document gives in its table `selection`. -/
def ofRoot (root : Entries) : Option Config :=
  match root.find? "selection" with
  | none => some {}
  | some node => ofNode node

/-- The checked settings that a document gives. -/
def ofDocument (text : String) : Except DocumentFault Config :=
  match (Toml.parse text).bind ofRoot with
  | none => .error .unreadable
  | some config =>
    match config.validate with
    | .ok () => .ok config
    | .error fault => .error (.refused fault)

/-- The settings that a document gives which is the table of settings itself;
    they are not checked. -/
def ofTableDocument (text : String) : Option Config :=
  (Toml.parse text).bind ofTable

end Config

end Endorsement
