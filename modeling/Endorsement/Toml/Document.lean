import Endorsement.Toml.Node
import Endorsement.Toml.Number

/-!
# Reading TOML documents

A document is a sequence of lines: keys with values, table headers and array
headers. Each line adds to the tables read so far, or makes the document
invalid.

* `Parser.value`: values of all kinds, nested to a limited depth;
* `Line`, `Parser.document`: the lines of a document;
* `Document.ofLines`: the tables that lines build up;
* `parse`: the root table of a document.
-/

namespace Endorsement.Toml

namespace Parser

/-! ## Values -/

/-- A truth value. -/
def boolean : Parser Bool :=
  (do chars ['t', 'r', 'u', 'e']; return true) <|> do chars ['f', 'a', 'l', 's', 'e']; return false

/-- A value that is not made up of others. -/
def scalar : Parser Node := do
  if (← ahead ['"']) || (← ahead ['\'']) then return .text (← quotedText)
  -- A date starts like a number, and a fractional number like a whole one.
  (do dateTime; return .dateTime) <|> (do float; return .float) <|>
    (do return .integer (← integer)) <|> do return .boolean (← boolean)

/-- An array of values. A comma may follow the last one. -/
def array (value : Parser Node) : Parser Node := do
  let _ ← char '['
  let items ← optional <| separatedBy (char ',') do
    gap
    let item ← value
    gap
    return item
  -- A comma does not stand alone.
  if items.isSome then
    let _ ← optional (char ',')
  gap
  let _ ← char ']'
  return .array (items.getD [])

/-- A key with its value, in an inline table. -/
def inlineEntry (value : Parser Node) : Parser ((List String × String) × Node) := do
  let key ← keyPath
  let _ ← char '='
  blanks
  let node ← value
  blanks
  return (key, node)

/-- A table between braces, on one line. -/
def inlineTable (value : Parser Node) : Parser Node := do
  let _ ← char '\x7b'
  let entries ← optional (separatedBy (char ',') (inlineEntry value))
  blanks
  let _ ← char '\x7d'
  let built := (entries.getD []).foldlM
    (fun table ((path, key), node) => Entries.addValue true path key node .explicit table) []
  match built with
  | none => failure
  | some table => return .table true .explicit table

/-- A value with arrays and inline tables nested at most `depth` deep. -/
def valueWithin : (depth : Nat) → Parser Node
  | 0 => scalar
  | depth + 1 => do
    if ← ahead ['['] then array (valueWithin depth)
    else if ← ahead ['\x7b'] then inlineTable (valueWithin depth)
    else scalar

/-- A value. -/
def value : Parser Node := valueWithin maxDepth

end Parser

/-! ## Lines -/

/-- What a line adds to a document. -/
inductive Line where
  /-- A key with its value. -/
  | entry (path : List String) (key : String) (node : Node)
  /-- The header of a table. -/
  | table (path : List String) (key : String)
  /-- The header of a further table of an array. -/
  | array (path : List String) (key : String)
  /-- Nothing. -/
  | blank
  deriving Repr

namespace Parser

/-- The header of a further table of an array. -/
def arrayHeader : Parser Line := do
  chars ['[', '[']
  let (path, key) ← keyPath
  chars [']', ']']
  lineRest
  return .array path key

/-- The header of a table. -/
def tableHeader : Parser Line := do
  let _ ← char '['
  let (path, key) ← keyPath
  let _ ← char ']'
  lineRest
  return .table path key

/-- A key with its value. -/
def entry : Parser Line := do
  let (path, key) ← keyPath
  let _ ← char '='
  blanks
  let node ← value
  lineRest
  return .entry path key node

/-- One line. -/
def line : Parser Line := do
  blanks
  if ← ahead ['#'] then
    comment
    lineEnd
    return .blank
  else if (← ahead ['\n']) || (← ahead ['\r']) then
    newline
    return .blank
  else if ← ahead ['[', '['] then arrayHeader
  else if ← ahead ['['] then tableHeader
  else entry

/-- All lines of a document, which may start with a byte order mark. -/
def document : Parser (List Line) := do
  let _ ← optional (char '\ufeff')
  let lines ← many line
  blanks
  atEnd
  return lines

end Parser

/-! ## Documents -/

/-- The tables read so far, and the path of the one that entries are added to. -/
structure Document where
  root : Entries := []
  current : List String := []
  deriving Repr

namespace Document

/-- Adds a line. -/
def add (d : Document) : Line → Option Document
  | .blank => some d
  | .table path key => do return ⟨← d.root.openTable path key, path ++ [key]⟩
  | .array path key => do return ⟨← d.root.openArray path key, path ++ [key]⟩
  | .entry path key node => do
    let root ← d.root.updateAt false false (Entries.addValue false path key node) d.current .explicit
    return { d with root }

/-- The tables that lines build up. -/
def ofLines (lines : List Line) : Option Document :=
  lines.foldlM add {}

end Document

/-- The root table of a document, if the document is valid. -/
def parse (text : String) : Option Entries := do
  let (lines, _) ← Parser.document text.toList
  return (← Document.ofLines lines).root

end Endorsement.Toml
