import Endorsement.Text.Hex
import Endorsement.Text.Visible

/-!
# Values on one line

Values are shown for inspection on one line: texts in double quotes with
escapes, lists in square brackets, records as a name with its fields in braces,
and wrapped values as a name with its argument in parentheses.

* `Text.quoted`: a text in double quotes;
* `Text.listing`, `Text.record`, `Text.wrapped`: lists, records and wrappers;
* `Text.optional`: a value that may be missing.

Escapes cover the quotes, the backslash and all characters that are not visible.
-/

namespace Endorsement.Text

/-- The lower-case hexadecimal digits of a number, without leading zeros. -/
def hexNumber (n : Nat) : String :=
  String.ofList (Nat.toDigits 16 n)

/-- One character of a text in double quotes. -/
def quotedChar (c : Char) : String :=
  if c = '"' then "\\\""
  else if c = '\\' then "\\\\"
  else if c = '\n' then "\\n"
  else if c = '\r' then "\\r"
  else if c = '\t' then "\\t"
  else if c = '\x00' then "\\0"
  else if isVisible c then c.toString
  else "\\u\x7b" ++ hexNumber c.toNat ++ "\x7d"

/-- A text in double quotes. -/
def quoted (text : String) : String :=
  "\"" ++ String.join (text.toList.map quotedChar) ++ "\""

/-- Items in square brackets. -/
def listing (items : List String) : String :=
  "[" ++ String.intercalate ", " items ++ "]"

/-- A name with its argument in parentheses. -/
def wrapped (name argument : String) : String :=
  name ++ "(" ++ argument ++ ")"

/-- Fields in braces after a name; a record without fields is its name. -/
def record (name : String) (fields : List (String × String)) : String :=
  match fields with
  | [] => name
  | fields =>
    name ++ " \x7b " ++ String.intercalate ", " (fields.map fun f => f.1 ++ ": " ++ f.2) ++ " \x7d"

/-- A record of which only the given fields are shown. -/
def partialRecord (name : String) (fields : List (String × String)) : String :=
  name ++ " \x7b " ++ String.intercalate ", " (fields.map (fun f => f.1 ++ ": " ++ f.2) ++ [".."]) ++
    " \x7d"

/-- A value that may be missing. -/
def optional (value : Option String) : String :=
  match value with
  | none => "None"
  | some text => wrapped "Some" text

end Endorsement.Text
