import Endorsement.Text.Blank
import Endorsement.Text.Hex

/-!
# Reading patterns, character by character

A reader of a pattern takes something off the front of its characters, or
fails. How it takes them depends on switches that the pattern itself sets.

* `Mode`: the switches;
* `Reader`, `Reader.rounds`: readers and repetition, which ends because every
  round has to take something;
* `Reader.blanks`: blanks and comments, where the pattern is spaced out;
* `Atom`, `Reader.escape`: characters, and what stands behind a backslash;
* `Atom.isUsable`, `Atom.isMember`: whether an atom can be matched, on its own
  and in a set.

Which characters are digits, blanks or parts of words in any script, and which
letters differ by case alone, is not known to patterns. What depends on it can
be used for ASCII only, where characters are taken as bytes. But then nothing
may be used that matches a part of a character: bytes beyond ASCII, any byte at
all, and all bytes but some.
-/

namespace Endorsement.Logging.Pattern

/-- How characters of a pattern are taken. -/
structure Mode where
  /-- Whether they are characters of all scripts, and not bytes. -/
  unicode : Bool := true
  /-- Whether a letter stands for both of its cases. -/
  anyCase : Bool := false
  /-- Whether blanks and comments between them are skipped. -/
  spaced : Bool := false
  deriving DecidableEq, Repr

/-- Where a reader stands in a pattern. -/
structure Cursor where
  /-- The characters that are left. -/
  rest : List Char
  /-- How they are taken. -/
  mode : Mode := {}
  /-- The names of groups so far. -/
  names : List (List Char) := []
  deriving DecidableEq, Repr

/-- Takes something off the front of a pattern, or fails. -/
abbrev Reader := StateT Cursor Option

namespace Reader

variable {σ α : Type}

/-- Rounds until one of them ends with a result; every other round has to take
    something. -/
def rounds (round : σ → Reader (σ ⊕ α)) (state : σ) (cursor : Cursor) :
    Option (α × Cursor) :=
  match round state cursor with
  | none => none
  | some (.inr result, after) => some (result, after)
  | some (.inl next, after) =>
    if after.rest.length < cursor.rest.length then rounds round next after else none
termination_by cursor.rest.length

/-- The characters that are left. -/
def rest : Reader (List Char) := do
  return (← get).rest

/-- How characters are taken. -/
def mode : Reader Mode := do
  return (← get).mode

/-- Goes on at the given characters. -/
def goOn (rest : List Char) : Reader Unit :=
  modify fun cursor => { cursor with rest }

/-- Takes one character. -/
def take : Reader Char := do
  match ← rest with
  | [] => failure
  | c :: after =>
    goOn after
    return c

/-- Takes the given character if it comes next, and says whether it did. -/
def takeIf (c : Char) : Reader Bool := do
  match ← rest with
  | [] => return false
  | first :: after =>
    if first = c then goOn after
    return first = c

/-! ## Blanks -/

/-- What follows blanks and comments, from within a comment or outside of one. A
    comment goes from a number sign to the end of its line. -/
def afterBlanks (inComment : Bool) : List Char → List Char
  | [] => []
  | c :: rest =>
    if inComment then afterBlanks (c ≠ '\n') rest
    else if c = '#' then afterBlanks true rest
    else if Text.isBlank c then afterBlanks false rest
    else c :: rest

/-- Blanks and comments, if they are skipped. -/
def blanks : Reader Unit :=
  modify fun cursor =>
    if cursor.mode.spaced then { cursor with rest := afterBlanks false cursor.rest } else cursor

end Reader

/-! ## Atoms -/

/-- What a character, or a backslash with what follows it, stands for. -/
inductive Atom where
  /-- A character, which may be given by the value of a byte. -/
  | literal (c : Char) (isByte : Bool)
  /-- Any digit, blank or character of a word, or any other character. -/
  | kind (negated : Bool)
  /-- Any character. -/
  | any
  /-- The start or the end of a line or of the text. -/
  | edge
  /-- The start or the end of a word, or neither. -/
  | wordEdge
  deriving DecidableEq, Repr

namespace Atom

/-- Whether an atom can be matched. -/
def isUsable (mode : Mode) : Atom → Bool
  | .literal c isByte => if mode.unicode then !mode.anyCase else !isByte || c.toNat < 0x80
  | .kind negated => !mode.unicode && !negated
  | .any => mode.unicode
  | .edge => true
  | .wordEdge => !mode.unicode

/-- Whether an atom can be a member of a set. -/
def isMember (mode : Mode) : Atom → Bool
  | .literal c _ => if mode.unicode then !mode.anyCase else c.toNat < 0x80
  | .kind negated => !mode.unicode && !negated
  | .any | .edge | .wordEdge => false

end Atom

namespace Reader

/-- The number written by `n` hexadecimal digits, after `value`. -/
def hexDigits (value : Nat) : Nat → Reader Nat
  | 0 => return value
  | n + 1 => do
    blanks
    match Text.hexValue? (← take) with
    | none => failure
    | some digit => hexDigits (value * 16 + digit) n

/-- The character with the code point written by `n` hexadecimal digits. -/
def codePoint (n : Nat) : Reader Char := do
  let value ← hexDigits 0 n
  if value.isValidChar then return Char.ofNat value else failure

/-- The control characters that have a letter of their own. -/
def control? (c : Char) : Option Char :=
  if c = 'a' then some '\x07'
  else if c = 't' then some '\t'
  else if c = 'n' then some '\n'
  else if c = 'v' then some '\x0b'
  else if c = 'f' then some '\x0c'
  else if c = 'r' then some '\r'
  else none

/-- What follows a backslash. Signs of ASCII stand for themselves there; letters
    and digits without a meaning are refused, as are all other characters. -/
def escape : Reader Atom := do
  let c ← take
  if c = 'x' then return .literal (← codePoint 2) true
  else if c = 'u' then return .literal (← codePoint 4) false
  else if c = 'U' then return .literal (← codePoint 8) false
  else if c = 'd' ∨ c = 's' ∨ c = 'w' then return .kind false
  else if c = 'D' ∨ c = 'S' ∨ c = 'W' then return .kind true
  else if c = 'A' ∨ c = 'z' then return .edge
  else if c = 'b' ∨ c = 'B' ∨ c = '<' ∨ c = '>' then return .wordEdge
  else
    match control? c with
    | some control => return .literal control false
    | none => if c.isAlphanum || 0x80 ≤ c.toNat then failure else return .literal c false

end Reader

end Endorsement.Logging.Pattern
