/-!
# Blanks of all scripts

Which characters are blanks: those with the Unicode property `White_Space`,
line ends and tabs among them.

* `Text.blankRanges`: the code points of these characters, as ranges in
  ascending order;
* `Text.isBlank`: whether a character is one of them;
* `Text.trim`: a text without the blanks at its ends.
-/

namespace Endorsement.Text

/-- The code points of blanks: the first and the last of each range. -/
def blankRanges : List (Nat × Nat) :=
  [(0x9, 0xD), (0x20, 0x20), (0x85, 0x85), (0xA0, 0xA0), (0x1680, 0x1680), (0x2000, 0x200A),
    (0x2028, 0x2029), (0x202F, 0x202F), (0x205F, 0x205F), (0x3000, 0x3000)]

/-- Whether a character is a blank. -/
def isBlank (c : Char) : Bool :=
  blankRanges.any fun (first, last) => first ≤ c.toNat && c.toNat ≤ last

/-- Characters without the blanks at both ends. -/
def trim (text : List Char) : List Char :=
  ((text.dropWhile isBlank).reverse.dropWhile isBlank).reverse

end Endorsement.Text
