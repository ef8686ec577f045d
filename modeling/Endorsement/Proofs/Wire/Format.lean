import Endorsement.Wire.Basic
import Mathlib.Algebra.Order.Group.Nat

/-!
# The wire format, and what is asked of it

The format is described apart from the encoders: what a value looks like on the
wire is a datum, made of numbers, texts, lists, missing values, records and
forms, and the bytes of a datum follow from a few rules.

* `Datum`, `Datum.bytes`: the data, and their bytes;
* `Datum.Fits`: whether all lengths in a datum fit into eight bytes;
* `Described`: types whose values are data;
* `Takes`: what a decoder takes off the front of the bytes;
* `Lawful`: types whose encoder writes the data, and whose decoder takes off
  exactly what the encoder writes;
* `decode_encode_append`, `read_encode_append`, `read_encode`: decoding undoes
  encoding;
* `encode_prefix_of_read`: bytes that hold a value start with its encoding;
* `exists_read_eq_error`: an encoding that is cut off holds no value.
-/

namespace Endorsement.Wire

/-! ## Data -/

/-- A value as the format sees it. -/
inductive Datum where
  /-- An integer, `width` bytes wide. -/
  | number (width n : Nat)
  | text (s : String)
  | list (items : List Datum)
  /-- A value that is missing. -/
  | absent
  /-- A value that might have been missing. -/
  | present (d : Datum)
  /-- The fields of a record, in order. -/
  | record (fields : List Datum)
  /-- The form at a position, with its contents. -/
  | form (position : Nat) (contents : List Datum)

namespace Datum

/-- The bytes of a number: byte `i` has the weight `256 ^ i`. -/
def numberBytes (width n : Nat) : List UInt8 :=
  (List.range width).map fun i => UInt8.ofNat (n / 256 ^ i)

/-- The bytes of a text: those of its characters in UTF-8. -/
def textBytes (s : String) : List UInt8 :=
  s.toList.flatMap String.utf8EncodeChar

mutual

/-- The bytes of a datum. Lengths are eight bytes wide and positions four, a tag
    for a missing value is a byte, and everything else follows without a gap. -/
def bytes : Datum → List UInt8
  | number width n => numberBytes width n
  | text s => numberBytes 8 (textBytes s).length ++ textBytes s
  | list items => numberBytes 8 items.length ++ bytesOfAll items
  | absent => [0]
  | present d => 1 :: bytes d
  | record fields => bytesOfAll fields
  | form position contents => numberBytes 4 position ++ bytesOfAll contents

/-- The bytes of data, one after the other. -/
def bytesOfAll : List Datum → List UInt8
  | [] => []
  | d :: rest => bytes d ++ bytesOfAll rest

end

mutual

/-- Whether all lengths in a datum are below `2 ^ 64`. -/
def Fits : Datum → Prop
  | number _ _ | absent => True
  | text s => (textBytes s).length < 2 ^ 64
  | list items => items.length < 2 ^ 64 ∧ AllFit items
  | present d => Fits d
  | record fields => AllFit fields
  | form _ contents => AllFit contents

/-- Whether all data fit. -/
def AllFit : List Datum → Prop
  | [] => True
  | d :: rest => Fits d ∧ AllFit rest

end

theorem bytesOfAll_eq_flatMap (data : List Datum) : bytesOfAll data = data.flatMap bytes := by
  induction data with
  | nil => rfl
  | cons d rest ih => rw [bytesOfAll, ih, List.flatMap_cons]

theorem allFit_iff {data : List Datum} : AllFit data ↔ ∀ d ∈ data, d.Fits := by
  induction data with
  | nil => simp [AllFit]
  | cons d rest ih => simp [AllFit, ih]

end Datum

/-! ## Types -/

/-- A type whose values are data. -/
class Described (α : Type) where
  /-- What a value looks like on the wire. -/
  datum : α → Datum

export Described (datum)

/-- Whether all lengths in a value are below `2 ^ 64`. -/
def Fits {α : Type} [Described α] (a : α) : Prop :=
  (datum a).Fits

/-- A decoder takes a value off exactly the bytes `used`, if the value has the
    property `P`, and whatever follows them. -/
def Takes {α : Type} (x : Decoder α) (a : α) (P : Prop) (used : List UInt8) : Prop :=
  ∀ bytes rest, x bytes = .ok (a, rest) ↔ P ∧ bytes = used ++ rest

/-- A type that is encoded as described, and whose decoder takes off exactly
    the encodings of its values. -/
class Lawful (α : Type) [Wire α] [Described α] : Prop where
  encode_eq (a : α) : encode a = (datum a).bytes
  takes_decode (a : α) : Takes decode a (Fits a) (encode a)

export Lawful (encode_eq takes_decode)

theorem exists_of_read_eq_ok {α : Type} [Wire α] {bytes : List UInt8} {a : α}
    (h : read α bytes = .ok a) :
    ∃ rest, decode bytes = .ok (a, rest) := by
  rw [read] at h
  cases hdecode : (decode (α := α) bytes) with
  | error fault => simp [hdecode, Except.map] at h
  | ok r =>
    rw [hdecode] at h
    obtain rfl : r.1 = a := Except.ok.inj h
    exact ⟨r.2, rfl⟩

variable {α : Type} [Wire α] [Described α] [Lawful α]

/-- Decoding takes an encoded value off, and leaves what follows it. -/
theorem decode_encode_append {a : α} (h : Fits a) (rest : List UInt8) :
    decode (encode a ++ rest) = .ok (a, rest) :=
  (takes_decode a _ _).2 ⟨h, rfl⟩

theorem read_encode_append {a : α} (h : Fits a) (rest : List UInt8) :
    read α (encode a ++ rest) = .ok a := by
  rw [read, decode_encode_append h]
  rfl

theorem read_encode {a : α} (h : Fits a) : read α (encode a) = .ok a := by
  rw [← List.append_nil (encode a), read_encode_append h]

/-- Bytes that hold a value start with its encoding. -/
theorem encode_prefix_of_read {bytes : List UInt8} {a : α} (h : read α bytes = .ok a) :
    encode a <+: bytes := by
  obtain ⟨rest, h⟩ := exists_of_read_eq_ok h
  exact ⟨rest, ((takes_decode a _ _).1 h).2.symm⟩

/-- An encoding that is cut off holds no value. -/
theorem exists_read_eq_error {a : α} (h : Fits a) {cut : List UInt8} (hcut : cut <+: encode a)
    (hne : cut ≠ encode a) : ∃ fault, read α cut = .error fault := by
  cases hread : read α cut with
  | error fault => exact ⟨fault, rfl⟩
  | ok b =>
    -- What is read from the front is also what stands at the front of the whole.
    obtain ⟨lost, hlost⟩ := hcut
    obtain ⟨rest, hdecode⟩ := exists_of_read_eq_ok hread
    obtain ⟨hb, rfl⟩ := (takes_decode b _ _).1 hdecode
    have hwhole : decode (encode a) = .ok (b, rest ++ lost) := by
      rw [← hlost, List.append_assoc]
      exact decode_encode_append hb _
    have hfull := decode_encode_append h []
    rw [List.append_nil, hwhole] at hfull
    obtain ⟨-, hnil⟩ := Prod.mk.inj (Except.ok.inj hfull)
    rw [(List.append_eq_nil_iff.1 hnil).2, List.append_nil] at hlost
    exact absurd hlost hne

end Endorsement.Wire
