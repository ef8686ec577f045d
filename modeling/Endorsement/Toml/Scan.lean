import Endorsement.Text.Hex

/-!
# Reading TOML, character by character

A parser takes something off the front of the characters and leaves the rest,
or fails. All faults of a document are alike, so a failure carries no reason.

* `Parser`, `Parser.many`, `Parser.separatedBy`: parsers and repetition, which
  ends because every round has to take something;
* `Parser.blanks`, `Parser.newline`, `Parser.comment`, `Parser.gap`: what stands
  between values;
* `Parser.basicText`, `Parser.literalText` and their forms over several lines:
  quoted texts;
* `Parser.keyPath`: keys, bare or quoted, with dots between them.
-/

namespace Endorsement.Toml

/-- Takes something off the front of the characters, or fails. -/
abbrev Parser (α : Type) := StateT (List Char) Option α

namespace Parser

variable {α β : Type}

/-! ## Repetition -/

/-- As many times as possible; every round has to take something. -/
def many (p : Parser α) (input : List Char) : Option (List α × List Char) :=
  match p input with
  | none => some ([], input)
  | some (a, rest) =>
    -- A round that takes nothing would be repeated for ever.
    if rest.length < input.length then
      match many p rest with
      | some (as, rest) => some (a :: as, rest)
      | none => none
    else some ([], input)
termination_by input.length

/-- Nothing, or what the parser takes. -/
def optional (p : Parser α) : Parser (Option α) :=
  (some <$> p) <|> pure none

/-- One or more, with a separator between any two. -/
def separatedBy (separator : Parser β) (p : Parser α) : Parser (List α) := do
  let first ← p
  let rest ← many do
    let _ ← separator
    p
  return first :: rest

/-! ## Characters -/

/-- A character that meets a condition. -/
def satisfy (ok : Char → Bool) : Parser Char
  | [] => none
  | c :: rest => if ok c then some (c, rest) else none

/-- The given character. -/
def char (c : Char) : Parser Char := satisfy (· = c)

/-- The given characters. -/
def chars : List Char → Parser Unit
  | [] => return
  | c :: rest => do
    let _ ← char c
    chars rest

/-- Whether the given characters come next; they are not taken. -/
def ahead (expected : List Char) : Parser Bool := fun input =>
  some (expected.isPrefixOf input, input)

/-- The end of the characters. -/
def atEnd : Parser Unit
  | [] => some ((), [])
  | _ => none

/-- All characters from the front that meet a condition. -/
def span (ok : Char → Bool) : Parser (List Char) := fun input =>
  some (input.takeWhile ok, input.dropWhile ok)

/-- One or more characters that meet a condition. -/
def span1 (ok : Char → Bool) : Parser (List Char) := do
  let taken ← span ok
  if taken.isEmpty then failure
  return taken

/-! ## Between values -/

/-- Blanks and tabs. -/
def isBlank (c : Char) : Bool := c = ' ' || c = '\t'

/-- Characters of a comment: no control characters except tabs. -/
def isCommentChar (c : Char) : Bool :=
  c = '\t' || (0x20 ≤ c.toNat && c.toNat ≠ 0x7F)

/-- Any number of blanks and tabs. -/
def blanks : Parser Unit := do
  let _ ← span isBlank

/-- The end of a line. -/
def newline : Parser Unit :=
  chars ['\n'] <|> chars ['\r', '\n']

/-- A comment, up to the end of its line. -/
def comment : Parser Unit := do
  let _ ← char '#'
  let _ ← span isCommentChar

/-- The end of a line or of the document. -/
def lineEnd : Parser Unit := newline <|> atEnd

/-- What may follow a value or a header on its line. -/
def lineRest : Parser Unit := do
  blanks
  let _ ← optional comment
  lineEnd

/-- What may stand between the items of an array: blanks, line ends and
    comments. -/
def gap : Parser Unit := do
  let _ ← many do
    let _ ← span1 isBlank <|> do
      let _ ← optional comment
      newline
      return []

/-! ## Quoted texts -/

/-- The number written by exactly `n` hexadecimal digits, after `value`. -/
def hexDigits (value : Nat) : Nat → Parser Nat
  | 0 => return value
  | n + 1 => do
    let digit ← satisfy fun c => (Text.hexValue? c).isSome
    hexDigits (value * 16 + (Text.hexValue? digit).getD 0) n

/-- The character with the code point written by `n` hexadecimal digits. -/
def codePoint (n : Nat) : Parser Char := do
  let value ← hexDigits 0 n
  if value.isValidChar then return Char.ofNat value else failure

/-- What follows a backslash. -/
def escape : Parser Char := do
  let c ← satisfy fun _ => true
  if c = 'b' then return '\x08'
  else if c = 't' then return '\t'
  else if c = 'n' then return '\n'
  else if c = 'f' then return '\x0c'
  else if c = 'r' then return '\r'
  else if c = '"' then return '"'
  else if c = '\\' then return '\\'
  else if c = 'u' then codePoint 4
  else if c = 'U' then codePoint 8
  else failure

/-- Characters that stand for themselves in double quotes. -/
def isBasicChar (c : Char) : Bool :=
  isCommentChar c && c ≠ '"' && c ≠ '\\'

/-- Characters that stand for themselves in single quotes. -/
def isLiteralChar (c : Char) : Bool :=
  isCommentChar c && c ≠ '\''

/-- A text in double quotes, on one line. -/
def basicText : Parser String := do
  let _ ← char '"'
  let content ← many <| satisfy isBasicChar <|> do
    let _ ← char '\\'
    escape
  let _ ← char '"'
  return String.ofList content

/-- A text in single quotes, on one line. -/
def literalText : Parser String := do
  let _ ← char '\''
  let content ← span isLiteralChar
  let _ ← char '\''
  return String.ofList content

/-- A backslash at the end of a line, with all blanks and line ends after it. -/
def lineContinuation : Parser (List Char) := do
  let _ ← char '\\'
  blanks
  newline
  let _ ← many do
    let _ ← span1 isBlank <|> do
      newline
      return []
  return []

/-- One or two quotes that do not close a text over several lines. -/
def innerQuotes (quote : Char) : Parser (List Char) := do
  let quotes ← span1 (· = quote)
  if quotes.length ≤ 2 then return quotes else failure

/-- The quotes at the end of a text over several lines: three close it, and up
    to two before them belong to it. -/
def closingQuotes (quote : Char) : Parser (List Char) := do
  let quotes ← span1 (· = quote)
  if 3 ≤ quotes.length ∧ quotes.length ≤ 5 then return quotes.drop 3 else failure

/-- A text over several lines, given what stands between its quotes. -/
def manyLines (quote : Char) (content : Parser (List Char)) : Parser String := do
  chars [quote, quote, quote]
  -- A line end right after the opening quotes is no part of the text.
  let _ ← optional newline
  let parts ← many (content <|> innerQuotes quote)
  let quotes ← closingQuotes quote
  return String.ofList (parts.flatten ++ quotes)

/-- A line end within a text. -/
def innerNewline : Parser (List Char) := do
  newline
  return ['\n']

/-- A text in triple double quotes. -/
def basicTextLines : Parser String :=
  manyLines '"' <| span1 isBasicChar <|> innerNewline <|> lineContinuation <|> do
    let _ ← char '\\'
    return [← escape]

/-- A text in triple single quotes. -/
def literalTextLines : Parser String :=
  manyLines '\'' <| span1 isLiteralChar <|> innerNewline

/-- A quoted text of any kind. -/
def quotedText : Parser String := do
  if ← ahead ['"', '"', '"'] then basicTextLines
  else if ← ahead ['"'] then basicText
  else if ← ahead ['\'', '\'', '\''] then literalTextLines
  else literalText

/-! ## Keys -/

/-- Characters of a key without quotes. -/
def isBareKeyChar (c : Char) : Bool :=
  c.isAlphanum || c = '_' || c = '-'

/-- One key. -/
def simpleKey : Parser String :=
  basicText <|> literalText <|> do return String.ofList (← span1 isBareKeyChar)

/-- How deep values may be nested, and how many keys may be joined by dots. -/
def maxDepth : Nat := 79

/-- Keys with dots between them: the path before the last key, and that key. -/
def keyPath : Parser (List String × String) := do
  let keys ← separatedBy (char '.') do
    blanks
    let key ← simpleKey
    blanks
    return key
  if maxDepth < keys.length then failure
  match keys.getLast? with
  | none => failure
  | some key => return (keys.dropLast, key)

end Parser

end Endorsement.Toml
