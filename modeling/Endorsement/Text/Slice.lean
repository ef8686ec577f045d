/-!
# Texts cut at bytes

Positions in a text count the bytes of its characters in UTF-8. A text can be
cut where a character ends, and not within one.

* `Text.takeBytes?`, `Text.dropBytes?`: what stands before and after a position;
* `Text.slice?`: what stands between two positions.
-/

namespace Endorsement.Text

/-- The characters that make up the first `n` bytes of a text. -/
def takeBytes? (n : Nat) : List Char → Option (List Char)
  | [] => if n = 0 then some [] else none
  | c :: rest =>
    if n = 0 then some []
    else if c.utf8Size ≤ n then (takeBytes? (n - c.utf8Size) rest).map (c :: ·)
    else none

/-- The characters that follow the first `n` bytes of a text. -/
def dropBytes? (n : Nat) : List Char → Option (List Char)
  | [] => if n = 0 then some [] else none
  | c :: rest =>
    if n = 0 then some (c :: rest)
    else if c.utf8Size ≤ n then dropBytes? (n - c.utf8Size) rest
    else none

/-- The characters from one position to a later one. -/
def slice? (first last : Nat) (text : List Char) : Option (List Char) := do
  takeBytes? (last - first) (← dropBytes? first text)

end Endorsement.Text
