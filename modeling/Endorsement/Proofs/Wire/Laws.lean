import Endorsement.Proofs.Wire.Types

/-!
# Nothing is lost on the wire

What the law of the format comes to for all types that travel. Lengths are
eight bytes wide, so only values all of whose lengths are below `2 ^ 64` can be
expected to survive; there are no others in a memory addressed by 64 bits.

* `RoundTrips`, `wire_types_round_trip`: values are written as the format says,
  and decoding undoes encoding, whatever follows;
* `Canonical`, `wire_types_canonical`: a value is read only from bytes that start
  with its encoding, and not from less than that.
-/

namespace Endorsement.Wire

open Gossip

variable (α : Type) [Wire α] [Described α]

/-! ## Decoding undoes encoding -/

/-- Values are encoded in the format, and every value whose lengths fit is
    decoded from its encoding followed by any bytes, which are left over. -/
def RoundTrips : Prop :=
  ∀ a : α, encode a = (datum a).bytes ∧
    (Fits a → ∀ rest, decode (encode a ++ rest) = .ok (a, rest) ∧
      read α (encode a ++ rest) = .ok a)

theorem roundTrips [Lawful α] : RoundTrips α :=
  fun a => ⟨encode_eq a, fun h rest => ⟨decode_encode_append h rest, read_encode_append h rest⟩⟩

/-- All types that travel survive it. -/
theorem wire_types_round_trip :
    RoundTrips Peer ∧ RoundTrips Chaincode ∧ RoundTrips PkiId ∧ RoundTrips Envelope ∧
      RoundTrips Content ∧ RoundTrips Message ∧ RoundTrips PeerIdentity ∧
      RoundTrips Certificate ∧ RoundTrips MspRole ∧ RoundTrips OrganizationUnit ∧
      RoundTrips Principal ∧ RoundTrips Rule ∧ RoundTrips Policy :=
  ⟨roundTrips _, roundTrips _, roundTrips _, roundTrips _, roundTrips _, roundTrips _,
    roundTrips _, roundTrips _, roundTrips _, roundTrips _, roundTrips _, roundTrips _,
    roundTrips _⟩

theorem oneOfTwo_round_trip :
    Fits (Rule.outOf 1 [.signedBy 0, .signedBy 1]) ∧
      read Rule (encode (Rule.outOf 1 [.signedBy 0, .signedBy 1]) ++ [7]) =
        .ok (.outOf 1 [.signedBy 0, .signedBy 1]) := by
  have hfits : Fits (Rule.outOf 1 [.signedBy 0, .signedBy 1]) :=
    Rule.fits_outOf.2 ⟨by decide, by simp [Fits, datum, Rule.toDatum, Datum.Fits, Datum.AllFit]⟩
  obtain ⟨-, -, -, -, -, -, -, -, -, -, -, hrule, -⟩ := wire_types_round_trip
  exact ⟨hfits, ((hrule _).2 hfits [7]).2⟩

/-! ## Encodings are canonical -/

/-- Bytes that hold a value start with its encoding, which is what is taken off;
    and an encoding that is cut off anywhere holds no value at all: reading it
    fails as undecodable. -/
structure Canonical : Prop where
  prefix_of_read {bytes : List UInt8} {a : α} : read α bytes = .ok a → encode a <+: bytes
  taken {bytes rest : List UInt8} {a : α} :
    decode bytes = .ok (a, rest) → bytes = encode a ++ rest
  cut {a : α} {cut : List UInt8} : Fits a → cut <+: encode a → cut ≠ encode a →
    ∃ failure, (read α cut).mapError Failure.ofWire = .error failure ∧
      failure.name = "Unmarshal" ∧ failure.kind = .undecodable

theorem canonical [Lawful α] : Canonical α where
  prefix_of_read := encode_prefix_of_read
  taken {_ _ a} h := ((takes_decode a _ _).1 h).2
  cut h hcut hne := by
    obtain ⟨fault, hfault⟩ := exists_read_eq_error h hcut hne
    exact ⟨.ofWire fault, by rw [hfault]; rfl, rfl, rfl⟩

/-- The encodings of all types that travel are canonical. -/
theorem wire_types_canonical :
    Canonical Peer ∧ Canonical Chaincode ∧ Canonical PkiId ∧ Canonical Envelope ∧
      Canonical Content ∧ Canonical Message ∧ Canonical PeerIdentity ∧
      Canonical Certificate ∧ Canonical MspRole ∧ Canonical OrganizationUnit ∧
      Canonical Principal ∧ Canonical Rule ∧ Canonical Policy :=
  ⟨canonical _, canonical _, canonical _, canonical _, canonical _, canonical _, canonical _,
    canonical _, canonical _, canonical _, canonical _, canonical _, canonical _⟩

theorem signedBy_cut :
    ∃ failure, (read Rule [0, 0, 0, 0, 3, 0, 0]).mapError Failure.ofWire = .error failure ∧
      failure.name = "Unmarshal" ∧ failure.kind = .undecodable := by
  have hfits : Fits (Rule.signedBy 3) := by
    simp [Fits, datum, Rule.toDatum, Datum.Fits, Datum.AllFit]
  obtain ⟨-, -, -, -, -, -, -, -, -, -, -, hrule, -⟩ := wire_types_canonical
  exact hrule.cut hfits ⟨[0], rfl⟩ (by decide)

end Endorsement.Wire
