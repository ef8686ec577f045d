import Endorsement.Logging.Filter
import Endorsement.Logging.Settings
import Endorsement.Text.Colour

/-!
# Setting up the log

A process sets up its log once. Directives that cannot be read are reported
before a log that is already set up. The first entry of a log says that it is
set up, if its filter lets it pass and anything is written at all.

* `Entry`: the first entry;
* `Log`, `Log.install`: whether the log of a process is set up, and setting it
  up;
* `Entry.lines`: an entry as text without colour codes, the coloured lines being
  marked.
-/

namespace Endorsement.Logging

/-- The first entry of a log. -/
structure Entry where
  serviceName : String
  json : Bool
  deriving DecidableEq, Repr

namespace Entry

/-- The level of the entry. -/
def level : Level := .info

/-- The target of the entry. -/
def target : String := "selection_telemetry::logging"

/-- The message of the entry. -/
def message : String := "Logging initialized"

/-- The names of its fields, the message being one. -/
def fieldNames : List String := ["message", "service", "json_logs"]

/-- The parts of the entry as text, in order, each with whether it is
    coloured. The message and the values of fields are not. -/
def parts (e : Entry) : List (Bool × String) :=
  [(true, level.name), (false, " "), (true, target), (true, ":"), (false, " " ++ message ++ " "),
    (true, "service"), (true, "="), (false, e.serviceName ++ " "),
    (true, "json_logs"), (true, "="), (false, toString e.json)]

/-- A line without the colour codes in it, and whether it is coloured. -/
def plainLine (coloured : Bool) (line : String) : Bool × String :=
  (coloured || Text.uncoloured line != line, Text.uncoloured line)

/-- Adds a part to lines, the last of which is in progress. A line ends with a
    line feed, which a carriage return may precede. -/
def addPart (lines : List (Bool × String)) (coloured : Bool) (text : String) :
    List (Bool × String) :=
  let last := lines.getLast?.getD (false, "")
  match ((text.replace "\r\n" "\n").splitOn "\n").map (plainLine coloured) with
  | [] => lines
  | first :: rest => lines.dropLast ++ [(last.1 || first.1, last.2 ++ first.2)] ++ rest

/-- The lines of the entry as text, each with whether a part of it is
    coloured. A name with line ends in it makes for more than one line. -/
def lines (e : Entry) : List (Bool × String) :=
  e.parts.foldl (fun lines part => addPart lines part.1 part.2) []

end Entry

/-- The log of a process: whether it is set up. -/
structure Log where
  installed : Bool := false
  deriving DecidableEq, Repr

namespace Log

/-- Why a log is not set up twice. -/
def installedReason : String := "a global default trace dispatcher has already been set"

/-- Sets up the log: the log afterwards, and its first entry if one is
    written. -/
def install (s : Settings) (log : Log) : Except Fault (Log × Option Entry) :=
  match Filter.parse? s.level with
  | none => .error (.badDirectives "invalid filter directive")
  | some filter =>
    if log.installed then .error (.alreadyInstalled installedReason)
    else
      let written := s.consoleOutput && filter.allows Entry.level Entry.target Entry.fieldNames
      .ok (⟨true⟩, if written then some ⟨s.serviceName, s.json⟩ else none)

/-- Sets up the log unless it is set up already; nothing is written. -/
def installSilently (_ : Log) : Log := ⟨true⟩

end Log

end Endorsement.Logging
