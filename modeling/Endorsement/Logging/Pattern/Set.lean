import Endorsement.Logging.Pattern.Scan

/-!
# Sets of characters in patterns

A set stands in square brackets. Its members are characters, ranges of
characters, named sets of ASCII such as `[:alpha:]`, and further sets; a circumflex
in front turns it into its complement. Two signs of the same kind, `&&`, `--` or
`~~`, stand for the operations between the members before and after them.

* `sideBySide`: how deep parts next to each other are nested;
* `Reader.member`: a character or a range of characters;
* `Reader.namedSet?`: a named set;
* `Reader.setWithin`: a set, with sets in it nested to a limited depth.
-/

namespace Endorsement.Logging.Pattern

/-! ## Depth -/

/-- How deep parts are nested that stand side by side: one level more than the
    deepest of them, unless there is only one. -/
def sideBySide : List Nat → Nat
  | [] => 0
  | [depth] => depth
  | depths => depths.foldl max 0 + 1

namespace Reader

/-! ## Members -/

/-- What a character of a set stands for. -/
def setAtom : Reader Atom := do
  let c ← take
  if c = '\\' then escape else return .literal c false

/-- Whether characters start with a dash between the ends of a range. Before a
    closing bracket or another dash it is none. Where blanks are skipped, those
    behind it do not count, nor does the sign of a comment. -/
def startsRange (spaced : Bool) : List Char → Bool
  | '-' :: after =>
    let next := if spaced then after.dropWhile Text.isBlank else after
    let next := match next with
      | '#' :: comment => if spaced then comment.dropWhile Text.isBlank else next
      | _ => next
    next.head? ≠ some ']' && next.head? ≠ some '-'
  | _ => false

/-- A character, or two with a dash between them, the first of which must not
    come after the second. -/
def member : Reader Unit := do
  let first ← setAtom
  blanks
  let mode ← mode
  if startsRange mode.spaced (← rest) then
    let _ ← take
    blanks
    match first, ← setAtom with
    | .literal low _, .literal high _ =>
      guard (low ≤ high && first.isMember mode && (Atom.literal high false).isMember mode)
    | _, _ => failure
  else guard (first.isMember mode)

/-- The names of sets of ASCII. -/
def setNames : List String :=
  ["alnum", "alpha", "ascii", "blank", "cntrl", "digit", "graph", "lower", "print", "punct",
    "space", "upper", "word", "xdigit"]

/-- A named set, if one comes first: whether it is a complement, and what follows
    it. -/
def namedSet? : List Char → Option (Bool × List Char)
  | '[' :: ':' :: text =>
    let negated := text.head? = some '^'
    let (name, after) := (if negated then text.drop 1 else text).span (· ≠ ':')
    match after with
    | ':' :: ']' :: after =>
      if setNames.contains (String.ofList name) then some (negated, after) else none
    | _ => none
  | _ => none

/-! ## Sets -/

/-- What has been read of a set: how deep the operands of finished operations
    are nested, if there are any, and how deep the members since then are. -/
structure SetInProgress where
  operands : Option Nat := none
  members : List Nat := []

namespace SetInProgress

/-- With one more member. -/
def add (s : SetInProgress) (depth : Nat) : SetInProgress :=
  { s with members := depth :: s.members }

/-- How deep the set is nested; an operation is one level deeper than its
    operands. -/
def depth (s : SetInProgress) : Nat :=
  match s.operands with
  | none => sideBySide s.members
  | some operands => max operands (sideBySide s.members) + 1

/-- With an operation after the members. -/
def operate (s : SetInProgress) : SetInProgress := ⟨some s.depth, []⟩

end SetInProgress

/-- One more dash at the start of a set, where it stands for itself. -/
def leadingDash (dashes : SetInProgress) : Reader (SetInProgress ⊕ SetInProgress) := do
  if ← takeIf '-' then
    guard ((Atom.literal '-' false).isMember (← mode))
    blanks
    return .inl (dashes.add 0)
  else return .inr dashes

/-- The members that a set may only start with: dashes, or a closing bracket. -/
def leadingMembers : Reader SetInProgress := do
  let dashes ← rounds leadingDash {}
  if dashes.members.isEmpty && (← rest).head? = some ']' then
    guard ((Atom.literal ']' false).isMember (← mode))
    let _ ← take
    return dashes.add 0
  else return dashes

/-- One more member of a set, an operation or the closing bracket. -/
def setPart (inner : Reader Nat) (s : SetInProgress) : Reader (SetInProgress ⊕ Nat) := do
  blanks
  match ← rest with
  | [] => failure
  | ']' :: after =>
    goOn after
    return .inr s.depth
  | '&' :: '&' :: after | '-' :: '-' :: after | '~' :: '~' :: after =>
    goOn after
    return .inl s.operate
  | '[' :: after =>
    match namedSet? ('[' :: after) with
    | some (negated, after) =>
      let mode ← mode
      guard (if mode.unicode then !mode.anyCase else !negated)
      goOn after
      return .inl (s.add 0)
    | none =>
      goOn after
      return .inl (s.add (← inner))
  | _ =>
    member
    return .inl (s.add 0)

/-- What follows an opening bracket, with at most `n` sets within each other:
    how deep the set is nested. -/
def setWithin : (n : Nat) → Reader Nat
  | 0 => failure
  | n + 1 => do
    blanks
    if ← takeIf '^' then
      guard (← mode).unicode
      blanks
    let depth ← rounds (setPart (setWithin n)) (← leadingMembers)
    return depth + 1

end Reader

end Endorsement.Logging.Pattern
