import Endorsement.Logging.Pattern.Set
import Endorsement.Text.Letter

/-!
# Patterns

A pattern is a regular expression that the value of a field may have to match:

    .*
    (?x) peer[0-9]+ | orderer
    (?<name>[[:alpha:]]+)

Whether an entry passes never depends on such values, so all that is asked of a
pattern is whether it can be matched at all. A closing brace ends the fields of a
filter, so there is none in a pattern, and the forms that end with one are never
complete: repetition with a count, and characters and properties in braces.

* `areSwitches`, `Mode.after`: what a pattern switches on and off;
* `Reader.groupStart`: what a group starts with;
* `Reader.contentWithin`: the content of a pattern or of a group;
* `isPattern`: whether a text is a pattern.
-/

namespace Endorsement.Logging.Pattern

/-! ## Switches -/

/-- The letters of switches: any case, edges of lines, points that match the end
    of a line, reluctant repetition, characters of all scripts, ends of lines with
    a carriage return, and skipped blanks. A dash turns off those after it. -/
def switchSigns : List Char := ['i', 'm', 's', 'U', 'u', 'R', 'x', '-']

/-- Whether characters are switches: none stands twice, and some stand after the
    dash. -/
def areSwitches (signs : List Char) : Bool :=
  signs.all switchSigns.contains && signs.Nodup && signs.getLast? ≠ some '-'

/-- The state of a switch after others have been set. -/
def switched (signs : List Char) (sign : Char) (state : Bool) : Bool :=
  let (on, off) := signs.span (· ≠ '-')
  if on.contains sign then true else if off.contains sign then false else state

/-- The mode after switches have been set. -/
def Mode.after (mode : Mode) (signs : List Char) : Mode where
  unicode := switched signs 'u' mode.unicode
  anyCase := switched signs 'i' mode.anyCase
  spaced := switched signs 'x' mode.spaced

namespace Reader

/-! ## Groups -/

/-- What an opening parenthesis starts. -/
inductive Opening where
  /-- Nothing: switches are set up to the end of the group around them. -/
  | switches (signs : List Char)
  /-- A group, with switches that are set for it. -/
  | group (signs : List Char)

/-- Whether a name of a group may start with a character. -/
def isNameStart (c : Char) : Bool := c = '_' || Text.isLetter c

/-- Whether a character may stand in a name of a group. -/
def isNameChar (c : Char) : Bool :=
  c = '_' || c = '.' || c = '[' || c = ']' || Text.isLetterOrDigit c

/-- Whether characters are a name of a group. -/
def isName : List Char → Bool
  | [] => false
  | first :: others => isNameStart first && others.all isNameChar

/-- The name of a group and the bracket after it. No name is given twice. -/
def groupName (text : List Char) : Reader Unit := do
  let (name, after) := text.span (· ≠ '>')
  match after with
  | [] => failure
  | _ :: after =>
    guard (isName name && !(← get).names.contains name)
    modify fun cursor => { cursor with rest := after, names := name :: cursor.names }

/-- The switches of a group, or switches that stand alone: these must set
    something. -/
def groupSwitches (text : List Char) : Reader Opening := do
  let (signs, after) := text.span fun c => c ≠ ':' && c ≠ ')'
  guard (areSwitches signs)
  match after with
  | [] => failure
  | c :: after =>
    goOn after
    if c = ':' then return .group signs
    else if signs.isEmpty then failure
    else return .switches signs

/-- What follows an opening parenthesis. -/
def groupStart : Reader Opening := do
  blanks
  match ← rest with
  | '?' :: 'P' :: '<' :: text | '?' :: '<' :: text =>
    groupName text
    return .group []
  | '?' :: text => groupSwitches text
  | _ => return .group []

/-! ## Content -/

/-- What has been read of a content: how deep the alternatives before the last
    bar are nested, and how deep the parts since then are, from the last one.
    Switches among them are parts without a depth. -/
structure ContentInProgress where
  alternatives : List Nat := []
  parts : List (Option Nat) := []

namespace ContentInProgress

/-- With one more part. -/
def add (s : ContentInProgress) (part : Option Nat) : ContentInProgress :=
  { s with parts := part :: s.parts }

/-- How deep the parts since the last bar are nested. -/
def lastAlternative (s : ContentInProgress) : Nat :=
  sideBySide (s.parts.map fun part => part.getD 0)

/-- With a bar after the parts. -/
def divide (s : ContentInProgress) : ContentInProgress :=
  ⟨s.lastAlternative :: s.alternatives, []⟩

/-- How deep the content is nested. -/
def depth (s : ContentInProgress) : Nat :=
  sideBySide (s.lastAlternative :: s.alternatives)

/-- With the last part repeated. There must be one, and no switches. -/
def repeatLast? (s : ContentInProgress) : Option ContentInProgress :=
  match s.parts with
  | some depth :: parts => some { s with parts := some (depth + 1) :: parts }
  | _ => none

end ContentInProgress

/-- How deep the parts of a pattern may be nested. -/
def maxDepth : Nat := 250

/-- A group, or switches, after an opening parenthesis: how deep the group is
    nested, given what reads its content. -/
def group (content : Reader Nat) : Reader (Option Nat) := do
  let outside ← mode
  match ← groupStart with
  | .switches signs =>
    modify fun cursor => { cursor with mode := outside.after signs }
    return none
  | .group signs =>
    modify fun cursor => { cursor with mode := outside.after signs }
    let depth ← content
    guard (← takeIf ')')
    modify fun cursor => { cursor with mode := outside }
    return some (depth + 1)

/-- What a character outside of sets stands for. -/
def atom (c : Char) : Reader Atom :=
  if c = '\\' then escape
  else if c = '.' then return .any
  else if c = '^' ∨ c = '$' then return .edge
  else return .literal c false

/-- One more part of a content, or its end, which is that of the pattern or a
    closing parenthesis. -/
def contentPart (inner : Reader Nat) (s : ContentInProgress) :
    Reader (ContentInProgress ⊕ Nat) := do
  blanks
  match ← rest with
  | [] | ')' :: _ => return .inr s.depth
  | c :: after =>
    goOn after
    if c = '|' then return .inl s.divide
    else if c = '(' then return .inl (s.add (← group inner))
    else if c = '[' then return .inl (s.add (some (← setWithin maxDepth)))
    else if c = '?' ∨ c = '*' ∨ c = '+' then
      let _ ← takeIf '?'
      return .inl (← s.repeatLast?)
    else if c = '\x7b' then failure
    else
      guard ((← atom c).isUsable (← mode))
      return .inl (s.add (some 0))

/-- The content of a pattern or of a group, with fewer than `n` groups within
    each other: how deep it is nested. -/
def contentWithin : (n : Nat) → Reader Nat
  | 0 => failure
  | n + 1 => rounds (contentPart (contentWithin n)) {}

end Reader

/-- Whether a text is a pattern. -/
def isPattern (text : String) : Bool :=
  match (Reader.contentWithin (Reader.maxDepth + 1)).run ⟨text.toList, {}, []⟩ with
  | some (depth, cursor) => cursor.rest.isEmpty && depth ≤ Reader.maxDepth
  | none => false

end Endorsement.Logging.Pattern
