/-!
# UTF-8 and where it breaks

A byte string is read as text if it is well-formed UTF-8. If it is not, the
reader says where the first character that cannot be completed starts, and
whether it is cut off by the end of the bytes or broken by a byte that cannot
stand where it does.

* `Utf8.Fault`: the two ways in which bytes fail to be UTF-8;
* `Utf8.Scan`, `Utf8.fault?`: a scan of the bytes, one at a time, for the first
  fault. How many bytes a character has, and which second bytes it admits, is
  decided by its first byte (`Utf8.lead?`), which rules out overlong forms,
  surrogates and code points past the last one;
* `Utf8.decode`: the text of a byte string, or its first fault.
-/

namespace Endorsement.Utf8

/-- Why a byte string is not UTF-8. -/
inductive Fault where
  /-- The `length` bytes from `index` on start no character. -/
  | invalid (length index : Nat)
  /-- The bytes end inside the character that starts at `index`. -/
  | incomplete (index : Nat)
  deriving DecidableEq, Repr

/-- The wording of a fault. -/
def Fault.message : Fault → String
  | .invalid length index => s!"invalid utf-8 sequence of {length} bytes from index {index}"
  | .incomplete index => s!"incomplete utf-8 byte sequence from index {index}"

/-- What the first byte of a character promises: the number of bytes that
    follow it, and the least and greatest second byte. -/
def lead? (b : UInt8) : Option (Nat × UInt8 × UInt8) :=
  if b < 0x80 then some (0, 0x80, 0xBF)
  else if 0xC2 ≤ b ∧ b ≤ 0xDF then some (1, 0x80, 0xBF)
  else if b = 0xE0 then some (2, 0xA0, 0xBF)
  else if b = 0xED then some (2, 0x80, 0x9F)
  else if 0xE1 ≤ b ∧ b ≤ 0xEF then some (2, 0x80, 0xBF)
  else if b = 0xF0 then some (3, 0x90, 0xBF)
  else if 0xF1 ≤ b ∧ b ≤ 0xF3 then some (3, 0x80, 0xBF)
  else if b = 0xF4 then some (3, 0x80, 0x8F)
  else none

/-- A scan between two bytes: the character in progress starts at `index`,
    `seen` of its bytes are read and `owed` are still to come, the next of them
    between `low` and `high`. -/
structure Scan where
  index : Nat
  seen : Nat
  owed : Nat
  low : UInt8
  high : UInt8
  deriving Repr

/-- The scan before the first byte. -/
def Scan.start : Scan := ⟨0, 0, 0, 0x80, 0xBF⟩

/-- Reads one byte. -/
def Scan.step (s : Scan) (b : UInt8) : Except Fault Scan :=
  match s.owed with
  | 0 =>
    match lead? b with
    | some (owed, low, high) => .ok ⟨s.index + s.seen, 1, owed, low, high⟩
    | none => .error (.invalid 1 (s.index + s.seen))
  | owed + 1 =>
    -- Only the second byte of a character has bounds of its own.
    if s.low ≤ b ∧ b ≤ s.high then .ok { s with seen := s.seen + 1, owed, low := 0x80, high := 0xBF }
    else .error (.invalid s.seen s.index)

/-- The first fault of the bytes that follow a scan, if there is one. -/
def Scan.fault? (s : Scan) : List UInt8 → Option Fault
  | [] => if s.owed = 0 then none else some (.incomplete s.index)
  | b :: rest =>
    match s.step b with
    | .ok s' => s'.fault? rest
    | .error fault => some fault

/-- The first fault of a byte string, if there is one. -/
def fault? (bytes : List UInt8) : Option Fault :=
  Scan.start.fault? bytes

/-- The text that the bytes encode, or their first fault. -/
def decode (bytes : List UInt8) : Except Fault String :=
  match String.fromUTF8? ⟨bytes.toArray⟩ with
  | some text => .ok text
  | none => .error ((fault? bytes).getD (.incomplete bytes.length))

/-- The bytes of a text. -/
def encode (text : String) : List UInt8 :=
  text.toUTF8.data.toList

end Endorsement.Utf8
