/-!
# Colour codes

A terminal takes colours and other looks of what follows from codes in a text:
the escape character, an opening bracket, numbers with semicolons between them,
and the letter `m`.

* `Text.uncoloured`: a text without colour codes.
-/

namespace Endorsement.Text

/-- The characters of a text without colour codes, after those of a code that is
    not complete, the last one first. -/
def uncolouredAfter (code : List Char) : List Char → List Char
  | [] => code.reverse
  | c :: rest =>
    if code = ['\x1b'] ∧ c = '[' then uncolouredAfter (c :: code) rest
    else if 2 ≤ code.length ∧ (c.isDigit ∨ c = ';') then uncolouredAfter (c :: code) rest
    else if 2 ≤ code.length ∧ c = 'm' then uncolouredAfter [] rest
    else if c = '\x1b' then code.reverse ++ uncolouredAfter [c] rest
    else code.reverse ++ c :: uncolouredAfter [] rest

/-- A text without colour codes. -/
def uncoloured (text : String) : String :=
  String.ofList (uncolouredAfter [] text.toList)

end Endorsement.Text
