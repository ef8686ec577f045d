import Endorsement.Toml.Scan

/-!
# Numbers, dates and times in TOML

* `Parser.integer`: whole numbers, in base ten with a sign, or unsigned in base
  sixteen, eight or two. They must fit into 64 bits;
* `Parser.float`: fractional numbers. Their values are of no interest here,
  except that they must not be too large to be written down;
* `Parser.dateTime`: dates, times of day, and both.

Digits may be grouped by single underscores between two digits.
-/

namespace Endorsement.Toml.Parser

/-! ## Digits -/

/-- Whether a character is a digit in a base of at most sixteen. -/
def isDigitIn (base : Nat) (c : Char) : Bool :=
  match Text.hexValue? c with
  | some value => value < base
  | none => false

/-- The number written by digits, most significant first. -/
def valueIn (base : Nat) (digits : List Char) : Nat :=
  digits.foldl (fun value c => value * base + (Text.hexValue? c).getD 0) 0

/-- One or more digits, with single underscores allowed between them. -/
def groupedDigits (base : Nat) : Parser (List Char) := do
  let first ← satisfy (isDigitIn base)
  let rest ← many do
    let _ ← optional (char '_')
    satisfy (isDigitIn base)
  return first :: rest

/-- A sign, if there is one. -/
def sign : Parser (Option Char) := optional (satisfy fun c => c = '+' || c = '-')

/-- The digits of a whole number in base ten: zero alone, or no zero in front. -/
def wholeDigits : Parser (List Char) := do
  if ← ahead ['0'] then
    let zero ← char '0'
    return [zero]
  else groupedDigits 10

/-! ## Whole numbers -/

/-- A number in another base, after its mark. -/
def prefixed (mark : Char) (base : Nat) : Parser Int := do
  chars ['0', mark]
  return valueIn base (← groupedDigits base)

/-- A number in base ten. -/
def decimal : Parser Int := do
  let sign ← sign
  let value := valueIn 10 (← wholeDigits)
  return if sign = some '-' then -(value : Int) else value

/-- A whole number of 64 bits. -/
def integer : Parser Int := do
  let value ← prefixed 'x' 16 <|> prefixed 'o' 8 <|> prefixed 'b' 2 <|> decimal
  if -9223372036854775808 ≤ value ∧ value ≤ 9223372036854775807 then return value else failure

/-! ## Fractional numbers -/

/-- The least number that is rounded to infinity: halfway between the largest
    fractional number and the next power of two. -/
def infinityThreshold : Nat := Nat.pow 2 1024 - Nat.pow 2 970

/-- Whether a number, given by its digits and a power of ten, is rounded to
    infinity. A number with more digits before the point than the threshold has
    is, and one with fewer is not, so no large power has to be computed. -/
def isTooLarge (digits : List Char) (exponent : Int) : Bool :=
  let significant := digits.dropWhile (· = '0')
  let magnitude := (significant.length : Int) + exponent
  if significant.isEmpty || magnitude < 300 then false
  else if 320 < magnitude then true
  else
    let value := valueIn 10 significant
    if 0 ≤ exponent then infinityThreshold ≤ value * Nat.pow 10 exponent.toNat
    else infinityThreshold * Nat.pow 10 (-exponent).toNat ≤ value

/-- The part after the point. -/
def fraction : Parser (List Char) := do
  let _ ← char '.'
  groupedDigits 10

/-- The power of ten. -/
def exponent : Parser Int := do
  let _ ← satisfy fun c => c = 'e' || c = 'E'
  let sign ← sign
  let value := valueIn 10 (← groupedDigits 10)
  return if sign = some '-' then -(value : Int) else value

/-- Infinity, or no number at all. -/
def specialFloat : Parser Unit := do
  let _ ← sign
  chars ['i', 'n', 'f'] <|> chars ['n', 'a', 'n']

/-- A number with a point, a power of ten or both. A positive one must not be
    too large. -/
def float : Parser Unit := specialFloat <|> do
  let sign ← sign
  let whole ← wholeDigits
  let fraction ← optional fraction
  let exponent ← optional exponent
  if fraction.isNone && exponent.isNone then failure
  let digits := whole ++ fraction.getD []
  let power := exponent.getD 0 - (fraction.getD []).length
  if sign ≠ some '-' ∧ isTooLarge digits power then failure

/-! ## Dates and times -/

/-- A number of exactly `n` digits. -/
def fixedDigits (value : Nat) : Nat → Parser Nat
  | 0 => return value
  | n + 1 => do
    let digit ← satisfy Char.isDigit
    fixedDigits (value * 10 + (digit.toNat - '0'.toNat)) n

/-- A number of two digits between two bounds. -/
def twoDigits (low high : Nat) : Parser Nat := do
  let value ← fixedDigits 0 2
  if low ≤ value ∧ value ≤ high then return value else failure

/-- The days of a month. -/
def daysOf (year month : Nat) : Nat :=
  if month = 2 then
    if year % 4 = 0 ∧ (year % 100 ≠ 0 ∨ year % 400 = 0) then 29 else 28
  else if month = 4 ∨ month = 6 ∨ month = 9 ∨ month = 11 then 30
  else 31

/-- A date. -/
def date : Parser Unit := do
  let year ← fixedDigits 0 4
  let _ ← char '-'
  let month ← twoDigits 1 12
  let _ ← char '-'
  let day ← twoDigits 1 31
  if daysOf year month < day then failure

/-- A time of day; there may be a leap second. -/
def time : Parser Unit := do
  let _ ← twoDigits 0 23
  let _ ← char ':'
  let _ ← twoDigits 0 59
  let _ ← char ':'
  let _ ← twoDigits 0 60
  let _ ← optional do
    let _ ← char '.'
    span1 Char.isDigit

/-- The offset of a time from universal time. -/
def offset : Parser Unit :=
  (do let _ ← satisfy fun c => c = 'Z' || c = 'z') <|> do
    let _ ← satisfy fun c => c = '+' || c = '-'
    let _ ← twoDigits 0 23
    let _ ← char ':'
    let _ ← twoDigits 0 59

/-- A date, a time of day, or both. -/
def dateTime : Parser Unit :=
  (do
    date
    let _ ← optional do
      let _ ← satisfy fun c => c = 'T' || c = 't' || c = ' '
      time
      optional offset) <|>
    time

end Endorsement.Toml.Parser
