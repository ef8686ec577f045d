import Endorsement.Identity.Register
import Endorsement.Proofs.Running
import Endorsement.Proofs.Table
import Endorsement.Proofs.Wire.Types

/-!
# What the identity register holds

The register is fed with gossip messages, one by one or as streams. Of all that
it is fed, only the identities count that can be read, envelope and certificate,
and for each PKI ID only the last of them.

* `Envelope.named?`, `Message.named`: the PKI IDs and organisations that can be
  read from an envelope, and from the envelopes of an identity message;
* `Register.left_applyAll`, `Register.left_handle`, `Register.left_handleAll`:
  what actions do to the register, which is to insert what the messages name;
* `Feed`: what a register is fed with;
* `Register.holds_last_named`: the register after any feeds.
-/

namespace Endorsement

namespace Gossip

/-! ## Identities that can be read -/

/-- The PKI ID and the organisation that an envelope names, if its payload holds
    an identity, and the certificate of that can be read. -/
def Envelope.named? (e : Envelope) : Option (PkiId × String) := do
  let identity ← (Wire.read PeerIdentity e.payload).toOption
  let certificate ← (Wire.read Certificate identity.certificate).toOption
  return (identity.pkiId, certificate.mspId)

/-- The envelopes of an identity message; other messages have none. -/
def Message.identityEnvelopes (m : Message) : List Envelope :=
  match m.content with
  | .dataUpdate .identity data => data
  | _ => []

theorem Envelope.named?_eq_some (e : Envelope) {identity : PeerIdentity} {certificate : Certificate}
    (hidentity : Wire.read PeerIdentity e.payload = .ok identity)
    (hcertificate : Wire.read Certificate identity.certificate = .ok certificate) :
    e.named? = some (identity.pkiId, certificate.mspId) := by
  rw [named?, hidentity]
  change (Wire.read Certificate identity.certificate).toOption.bind _ = _
  rw [hcertificate]
  rfl

/-- What a message names, in order. -/
def Message.named (m : Message) : List (PkiId × String) :=
  m.identityEnvelopes.filterMap Envelope.named?

/-- Messages that spread no identities name nothing. -/
theorem Message.named_eq_nil (m : Message) (h : m.isIdentityUpdate = false) : m.named = [] := by
  rcases m with ⟨_, ⟨kind, _⟩ | _ | _⟩
  · cases kind
    · rfl
    · rfl
    · cases h
  · rfl
  · rfl

/-- An identity whose lengths fit on the wire: eight bytes wide are the length
    of the identifier and that of the certificate, which has 16 bytes more than
    the name of the organisation. -/
def Travels (named : PkiId × String) : Prop :=
  named.1.bytes.length < 2 ^ 64 ∧ (Utf8.encode named.2).length + 16 < 2 ^ 64

theorem Travels.fits_certificate {pkiId : PkiId} {mspId : String} (h : Travels (pkiId, mspId)) :
    Wire.Fits (Certificate.mk mspId []) := by
  refine ⟨Wire.fits_string.2 ?_, Wire.fits_bytes.2 (Nat.two_pow_pos 64), trivial⟩
  exact Nat.lt_of_le_of_lt (Nat.le_add_right _ 16) h.2

theorem Travels.fits_identity {pkiId : PkiId} {mspId : String} (h : Travels (pkiId, mspId)) :
    Wire.Fits (PeerIdentity.ofMsp pkiId mspId) := by
  have hlength :
      (Wire.encode (Certificate.mk mspId [])).length = (Utf8.encode mspId).length + 16 := by
    change (_ ++ _ ++ Wire.littleEndian 8 0).length = _
    simp only [List.length_append, Wire.length_littleEndian]
    omega
  refine ⟨⟨Wire.fits_bytes.2 h.1, trivial⟩, Wire.fits_bytes.2 ?_, trivial⟩
  exact hlength ▸ h.2

theorem certificate_ofMsp (pkiId : PkiId) (mspId : String) :
    (PeerIdentity.ofMsp pkiId mspId).certificate = Wire.encode (Certificate.mk mspId []) := rfl

/-- An identity that was made for an organisation is read as such. -/
theorem Travels.named?_eq {pkiId : PkiId} {mspId : String} (h : Travels (pkiId, mspId)) :
    Envelope.named? ⟨Wire.encode (PeerIdentity.ofMsp pkiId mspId), []⟩ = some (pkiId, mspId) := by
  have hcertificate := Wire.read_encode h.fits_certificate
  rw [← certificate_ofMsp pkiId] at hcertificate
  exact Envelope.named?_eq_some ⟨Wire.encode (PeerIdentity.ofMsp pkiId mspId), []⟩
    (Wire.read_encode h.fits_identity) hcertificate

/-- A message that spreads the identities of peers names these. -/
theorem named_identityUpdate {identities : List (PkiId × String)}
    (h : ∀ i ∈ identities, Travels i) :
    (Message.identityUpdate (identities.map fun i => .ofMsp i.1 i.2)).named = identities := by
  change ((identities.map _).map _).filterMap Envelope.named? = _
  rw [List.map_map, List.filterMap_map]
  refine (List.filterMap_congr fun i hi => ?_).trans List.filterMap_some
  exact (h i hi).named?_eq

end Gossip

namespace Identity

open Gossip

/-- What is read from an envelope is what it names. -/
theorem toOption_readEnvelope (e : Envelope) : (readEnvelope e).toOption = e.named? := by
  rw [readEnvelope, Envelope.named?, PeerIdentity.ofEnvelope]
  cases Wire.read PeerIdentity e.payload with
  | error fault => rfl
  | ok identity =>
    change (identity.mspId >>= fun mspId => pure (identity.pkiId, mspId)).toOption =
      (Wire.read Certificate identity.certificate).toOption.bind _
    rw [PeerIdentity.mspId]
    cases Wire.read Certificate identity.certificate <;> rfl

/-! ## What actions do to the register -/

namespace Register

variable {r : Register}

/-- The register that an action leaves. -/
def left (action : Act Register Unit) (r : Register) : Register :=
  (Runs.run action (r, ())).2.1

theorem left_bind (x : Act Register Unit) (f : Unit → Act Register Unit) (r : Register) :
    left (x >>= f) r = left (f ()) (left x r) := rfl

/-- Setting an organisation inserts it; if it is known already, that changes
    nothing. -/
theorem left_upsert (pkiId : PkiId) (mspId : String) (r : Register) :
    left (upsert pkiId mspId) r = r.insert pkiId mspId := by
  cases h : r.find? pkiId with
  | none => simp [left, upsert, h]
  | some old =>
    by_cases hold : old = mspId
    · rw [Table.insert_eq_self (hold ▸ h)]
      simp [left, upsert, h, hold]
    · simp [left, upsert, h, hold]

/-- An envelope is applied by inserting what it names. -/
theorem left_apply (e : Envelope) (r : Register) :
    left (apply e) r = r.insertAll e.named?.toList := by
  rw [apply, ← toOption_readEnvelope]
  cases readEnvelope e with
  | error failure => rfl
  | ok named => exact left_upsert named.1 named.2 r

theorem left_applyAll (envelopes : List Envelope) (r : Register) :
    left (applyAll envelopes) r = r.insertAll (envelopes.filterMap Envelope.named?) := by
  induction envelopes generalizing r with
  | nil => rfl
  | cons e rest ih =>
    rw [applyAll, left_bind, ih, left_apply, ← Table.insertAll_append]
    cases h : e.named? <;> simp [h]

theorem handle_eq (m : Message) : handle m = applyAll m.identityEnvelopes := by
  rcases m with ⟨_, ⟨kind, _⟩ | _ | _⟩
  · cases kind <;> rfl
  · rfl
  · rfl

/-- A message is applied by inserting what it names. -/
theorem left_handle (m : Message) (r : Register) : left (handle m) r = r.insertAll m.named := by
  rw [handle_eq, left_applyAll, Message.named]

theorem left_handleAll (messages : List Message) (r : Register) :
    left (handleAll messages) r = r.insertAll (messages.flatMap Message.named) := by
  induction messages generalizing r with
  | nil => rfl
  | cons m rest ih =>
    rw [handleAll, left_bind, ih, left_handle, ← Table.insertAll_append, List.flatMap_cons]

theorem flatMap_named_filter (messages : List Message) :
    (messages.filter Message.isIdentityUpdate).flatMap Message.named =
      messages.flatMap Message.named := by
  induction messages with
  | nil => rfl
  | cons m rest ih =>
    cases h : m.isIdentityUpdate with
    | true => rw [List.filter_cons_of_pos h, List.flatMap_cons, List.flatMap_cons, ih]
    | false =>
      rw [List.filter_cons_of_neg (by simp [h]), List.flatMap_cons, m.named_eq_nil h, ih,
        List.nil_append]

end Register

/-! ## Feeding the register -/

/-- What a register is fed with. -/
inductive Feed where
  /-- A single message. -/
  | message (m : Message)
  /-- A stream of messages, which is listened to up to its end. -/
  | stream (messages : List Message)

namespace Feed

/-- How a feed is applied. -/
def apply : Feed → Act Register Unit
  | .message m => Register.handle m
  | .stream messages => Register.run messages

/-- What a feed names, in order. -/
def named : Feed → List (PkiId × String)
  | .message m => m.named
  | .stream messages => messages.flatMap Message.named

/-- Applies feeds, one after the other. -/
def applyAll : List Feed → Act Register Unit
  | [] => return
  | feed :: rest => do
    feed.apply
    applyAll rest

end Feed

namespace Register

/-- The register after feeds, empty before them. -/
def after (feeds : List Feed) : Register :=
  left (Feed.applyAll feeds) .empty

theorem left_feed (feed : Feed) (r : Register) : left feed.apply r = r.insertAll feed.named := by
  cases feed with
  | message m => exact left_handle m r
  | stream messages =>
    -- Only the start and the end of a stream are reported besides.
    change left (handleAll _) r = _
    rw [left_handleAll, flatMap_named_filter]
    rfl

/-- Feeds insert what they name. -/
theorem after_eq (feeds : List Feed) :
    after feeds = Table.empty.insertAll (feeds.flatMap Feed.named) := by
  have hleft : ∀ r, left (Feed.applyAll feeds) r = r.insertAll (feeds.flatMap Feed.named) := by
    induction feeds with
    | nil => exact fun r => rfl
    | cons feed rest ih =>
      intro r
      rw [Feed.applyAll, left_bind, ih, left_feed, ← Table.insertAll_append, List.flatMap_cons]
  exact hleft .empty

theorem after_append (feeds more : List Feed) :
    after (feeds ++ more) = (after feeds).insertAll (more.flatMap Feed.named) := by
  rw [after_eq, after_eq, List.flatMap_append, Table.insertAll_append]

theorem after_message (feeds : List Feed) (m : Message) :
    after (feeds ++ [.message m]) = (after feeds).insertAll m.named := by
  rw [after_append, List.flatMap_singleton]
  rfl

theorem value_mspId (p : PkiId) (r : Register) : (mspId p r).value = (r.find? p).getD "" := by
  rw [mspId]
  cases r.find? p <;> rfl

/-- Whatever a register is fed with, it holds for each PKI ID the organisation
    that was named last, and no other PKI IDs than those named. None is ever
    lost. What spreads no identities, or cannot be read, changes nothing and
    keeps nothing from being applied. -/
theorem holds_last_named (feeds : List Feed) :
    (∀ p, (mspId p (after feeds)).value = (Table.latest? p (feeds.flatMap Feed.named)).getD "") ∧
      (after feeds).size = ((feeds.flatMap Feed.named).map Prod.fst).dedup.length ∧
      (∀ more p, ((after feeds).find? p).isSome = true →
        ((after (feeds ++ more)).find? p).isSome = true) ∧
      (∀ m : Message, m.isIdentityUpdate = false → after (feeds ++ [.message m]) = after feeds) ∧
      (∀ channel before e rest, e.named? = none →
        after (feeds ++ [.message ⟨channel, .dataUpdate .identity (before ++ e :: rest)⟩]) =
          after (feeds ++ [.message ⟨channel, .dataUpdate .identity (before ++ rest)⟩])) ∧
      ∀ identities : List (PkiId × String), (∀ i ∈ identities, Travels i) →
        ∀ p org, Table.latest? p identities = some org →
          (mspId p (after (feeds ++
            [.message (.identityUpdate (identities.map fun i => .ofMsp i.1 i.2))]))).value = org := by
  refine ⟨fun p => ?_, ?_, fun more p h => ?_, fun m h => ?_, fun channel before e rest h => ?_,
    fun identities htravel p org hlast => ?_⟩
  · rw [value_mspId, after_eq, Table.find?_insertAll, Table.find?_empty, Option.or_none]
  · rw [after_eq, Table.size_insertAll]
  · rw [after_append]
    exact Table.isSome_find?_insertAll h
  · rw [after_message, m.named_eq_nil h]
    rfl
  · rw [after_message, after_message]
    simp only [Message.named, Message.identityEnvelopes, List.filterMap_append,
      List.filterMap_cons_none h]
  · rw [value_mspId, after_message, named_identityUpdate htravel, Table.find?_insertAll, hlast]
    rfl

theorem renamed_peer_has_last_organisation :
    (mspId ⟨[1]⟩ (after [.message (.identityUpdate
      [.ofMsp ⟨[1]⟩ "A", .ofMsp ⟨[2]⟩ "C", .ofMsp ⟨[1]⟩ "B"])])).value = "B" := by
  obtain ⟨-, -, -, -, -, hupdate⟩ := holds_last_named []
  refine hupdate [(⟨[1]⟩, "A"), (⟨[2]⟩, "C"), (⟨[1]⟩, "B")] ?_ ⟨[1]⟩ "B" rfl
  simp only [List.forall_mem_cons, Travels]
  decide

end Register

end Identity

end Endorsement
