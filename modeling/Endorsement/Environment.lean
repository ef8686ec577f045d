import Endorsement.Text.Utf8

/-!
# Environment variables

Settings are read from environment variables. A variable is unset, or holds
bytes, which usually are text. A variable whose bytes are no text counts as
unset.

* `EnvironmentValue`, `Environment`: the variables that are set, and what they
  hold;
* `Environment.text?`: the text of a variable.
-/

namespace Endorsement

/-- What a variable that is set holds. -/
inductive EnvironmentValue where
  /-- A text. -/
  | text (value : String)
  /-- Bytes, which may be UTF-8 or not. -/
  | bytes (value : List UInt8)
  deriving DecidableEq, Repr

/-- The variables that are set. -/
abbrev Environment := String → Option EnvironmentValue

namespace Environment

/-- The environment in which no variable is set. -/
def empty : Environment := fun _ => none

/-- The text of a variable, if it is set and holds text. -/
def text? (env : Environment) (name : String) : Option String :=
  match env name with
  | none => none
  | some (.text value) => some value
  | some (.bytes value) => (Utf8.decode value).toOption

end Environment

end Endorsement
