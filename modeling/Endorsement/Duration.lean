/-!
# Durations

A span of time in whole nanoseconds. Settings give it in milliseconds; the log
shows it in the largest unit in which it has a whole part.

* `Duration.ofMillis`, `Duration.wholeMillis`: from and to milliseconds;
* `Duration.text`: the shortest exact decimal in the largest fitting unit.
-/

namespace Endorsement

/-- A span of time in nanoseconds. -/
structure Duration where
  nanos : Nat
  deriving DecidableEq, Repr

namespace Duration

/-- No time at all. -/
def zero : Duration := ⟨0⟩

/-- A number of milliseconds. -/
def ofMillis (millis : Nat) : Duration := ⟨millis * 1000000⟩

/-- A number of seconds. -/
def ofSeconds (seconds : Nat) : Duration := ⟨seconds * 1000000000⟩

/-- The whole milliseconds of a duration, rounded down. -/
def wholeMillis (d : Duration) : Nat := d.nanos / 1000000

/-- The digits of `fraction` as `places` decimal places, without trailing
    zeros, after a point; nothing for zero. -/
def decimals (places fraction : Nat) : String :=
  let digits := Nat.toDigits 10 fraction
  let padded := List.replicate (places - digits.length) '0' ++ digits
  match (padded.reverse.dropWhile (· = '0')).reverse with
  | [] => ""
  | shown => "." ++ String.ofList shown

/-- A duration in a unit of `size` nanoseconds, with up to `places` decimals. -/
def inUnit (d : Duration) (size places : Nat) (unit : String) : String :=
  toString (d.nanos / size) ++ decimals places (d.nanos % size) ++ unit

/-- The duration in the largest unit of which it has at least one. -/
def text (d : Duration) : String :=
  if 1000000000 ≤ d.nanos then d.inUnit 1000000000 9 "s"
  else if 1000000 ≤ d.nanos then d.inUnit 1000000 6 "ms"
  else if 1000 ≤ d.nanos then d.inUnit 1000 3 "µs"
  else toString d.nanos ++ "ns"

end Duration

end Endorsement
