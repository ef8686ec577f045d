import Endorsement.Text.Case

/-!
# Decimal numbers in settings

Settings given as text hold unsigned numbers: an optional plus sign and one or
more decimal digits. Leading zeros are allowed, blanks are not, and the value
must not exceed the width of the setting. Values to compare with may be any
numbers.

* `Text.digits?`: the value of a non-empty run of decimal digits;
* `Text.unsigned?`: the value of a setting, if it is well written and in range;
* `Text.isNumber`: whether a text is a number, with or without a fraction.
-/

namespace Endorsement.Text

/-- The value of decimal digits, most significant first, after `value`. -/
def digitsFrom (value : Nat) : List Char → Option Nat
  | [] => some value
  | c :: rest => if c.isDigit then digitsFrom (value * 10 + (c.toNat - '0'.toNat)) rest else none

/-- The value of one or more decimal digits. -/
def digits? : List Char → Option Nat
  | [] => none
  | cs => digitsFrom 0 cs

/-- The value of an unsigned number that is at most `limit`. -/
def unsigned? (limit : Nat) (text : String) : Option Nat :=
  let value := match text.toList with
    | '+' :: rest => digits? rest
    | cs => digits? cs
  value.filter (· ≤ limit)

/-- The greatest number of sixteen bits. -/
def limit16 : Nat := 65535

/-- The greatest number of 64 bits. -/
def limit64 : Nat := 18446744073709551615

/-- What follows a sign, if there is one. -/
def unsign : List Char → List Char
  | [] => []
  | c :: rest => if c = '+' || c = '-' then rest else c :: rest

/-- Whether characters are an exponent: a letter `e`, and digits with an
    optional sign. -/
def isExponent : List Char → Bool
  | [] => false
  | c :: rest => (c = 'e' || c = 'E') && (digits? (unsign rest)).isSome

/-- Whether characters are digits, with an optional point before, among or after
    them, and an optional exponent. -/
def isDecimal (text : List Char) : Bool :=
  let (whole, afterWhole) := text.span Char.isDigit
  let (places, rest) := match afterWhole with
    | '.' :: afterPoint => afterPoint.span Char.isDigit
    | _ => ([], afterWhole)
  !(whole ++ places).isEmpty && (rest.isEmpty || isExponent rest)

/-- Whether a text is a number: decimal, infinite or not a number at all, with
    an optional sign. -/
def isNumber (text : String) : Bool :=
  let unsigned := unsign text.toList
  isDecimal unsigned ||
    ["inf", "infinity", "nan"].contains (lower (String.ofList unsigned))

end Endorsement.Text
