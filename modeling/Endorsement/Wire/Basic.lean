import Endorsement.Text.Utf8

/-!
# The wire format

Policies, identities and gossip messages travel as bytes. The format is
positional: the fields of a record follow each other in order, with nothing
between them, and

* integers have a fixed width, least significant byte first (`littleEndian`);
* a text is its length in bytes, eight bytes wide, and its UTF-8 bytes;
* a list is its length, eight bytes wide, and its items;
* a value that may be missing is a tag byte, zero or one, and the value;
* a value of one of several forms is the position of the form, four bytes
  wide, and the contents of the form.

A decoder takes a value off the front of the bytes and leaves the rest
(`Decoder`); what follows a value is no concern of its own. `Wire` pairs the
two directions for a type, and `Wire.read` reads a value from bytes of which
it ignores the end.
-/

namespace Endorsement.Wire

/-! ## Faults -/

/-- Why bytes hold no value of the expected type. -/
inductive Fault where
  /-- The bytes end before the value does. -/
  | endOfInput
  /-- A text claims more bytes than there are. -/
  | shortText
  /-- A missing-or-present tag that is neither zero nor one. -/
  | presence (tag : UInt8)
  /-- A form beyond the `count` forms that the type has. -/
  | form (found count : Nat)
  /-- A text that is not UTF-8. -/
  | text (fault : Utf8.Fault)
  deriving DecidableEq, Repr

/-- The wording of a fault. -/
def Fault.message : Fault → String
  | .endOfInput => "io error: unexpected end of file"
  | .shortText => "io error: "
  | .presence tag => "tag for enum is not valid, found " ++ toString tag.toNat
  | .form found count =>
    "invalid value: integer `" ++ toString found ++ "`, expected variant index 0 <= i < " ++
      toString count
  | .text fault => "string is not valid utf8: " ++ fault.message

/-! ## Both directions -/

/-- A decoder takes a value off the front of the bytes and leaves the rest. -/
abbrev Decoder (α : Type) := StateT (List UInt8) (Except Fault) α

end Wire

/-- A type whose values travel as bytes. -/
class Wire (α : Type) where
  /-- The bytes of a value. -/
  encode : α → List UInt8
  /-- Takes a value off the front of the bytes. -/
  decode : Wire.Decoder α

namespace Wire

/-- The value at the front of the bytes; what follows it is ignored. -/
def read (α : Type) [Wire α] (bytes : List UInt8) : Except Fault α :=
  (decode (α := α) bytes).map Prod.fst

/-! ## Integers -/

/-- The `width` low bytes of a number, least significant first. -/
def littleEndian : (width : Nat) → Nat → List UInt8
  | 0, _ => []
  | width + 1, n => UInt8.ofNat (n % 256) :: littleEndian width (n / 256)

/-- The number with the given bytes, least significant first. -/
def ofLittleEndian : List UInt8 → Nat
  | [] => 0
  | b :: rest => b.toNat + 256 * ofLittleEndian rest

/-- Takes exactly `n` bytes off the front. -/
def take (short : Fault) : Nat → Decoder (List UInt8)
  | 0, bytes => .ok ([], bytes)
  | _ + 1, [] => .error short
  | n + 1, b :: rest =>
    match take short n rest with
    | .ok (taken, rest) => .ok (b :: taken, rest)
    | .error fault => .error fault

/-- Takes an unsigned number of `width` bytes off the front. -/
def number (width : Nat) : Decoder Nat := do
  return ofLittleEndian (← take .endOfInput width)

instance : Wire UInt8 where
  encode b := [b]
  decode := do return UInt8.ofNat (← number 1)

instance : Wire UInt64 where
  encode n := littleEndian 8 n.toNat
  decode := do return UInt64.ofNat (← number 8)

instance : Wire Int32 where
  encode n := littleEndian 4 n.toUInt32.toNat
  decode := do return (UInt32.ofNat (← number 4)).toInt32

/-! ## Texts, lists and missing values -/

instance : Wire String where
  encode text :=
    let bytes := Utf8.encode text
    littleEndian 8 bytes.length ++ bytes
  decode := do
    let bytes ← take .shortText (← number 8)
    match Utf8.decode bytes with
    | .ok text => return text
    | .error fault => throw (.text fault)

/-- Takes `n` values off the front, one after the other. -/
def repeated {α : Type} (item : Decoder α) : Nat → Decoder (List α)
  | 0 => return []
  | n + 1 => do
    let first ← item
    let rest ← repeated item n
    return first :: rest

/-- The bytes of a list whose items are encoded by `item`. -/
def encodeList {α : Type} (item : α → List UInt8) (items : List α) : List UInt8 :=
  littleEndian 8 items.length ++ items.flatMap item

/-- Takes a list off the front whose items are taken by `item`. -/
def decodeList {α : Type} (item : Decoder α) : Decoder (List α) := do
  repeated item (← number 8)

instance {α : Type} [Wire α] : Wire (List α) where
  encode := encodeList encode
  decode := decodeList decode

/-- The bytes of a value that may be missing. -/
def encodeOption {α : Type} (item : α → List UInt8) : Option α → List UInt8
  | none => [0]
  | some a => 1 :: item a

/-- Takes a value that may be missing off the front. -/
def decodeOption {α : Type} (item : Decoder α) : Decoder (Option α) := do
  let tag : UInt8 ← decode
  if tag = 0 then return none
  else if tag = 1 then return some (← item)
  else throw (.presence tag)

instance {α : Type} [Wire α] : Wire (Option α) where
  encode := encodeOption encode
  decode := decodeOption decode

/-! ## Forms -/

/-- The bytes of the position of a form. -/
def encodeForm (position : Nat) : List UInt8 :=
  littleEndian 4 position

/-- Takes the position of one of `count` forms off the front. -/
def decodeForm (count : Nat) : Decoder (Fin count) := do
  let found ← number 4
  if h : found < count then return ⟨found, h⟩ else throw (.form found count)

end Wire

end Endorsement
