import Endorsement.Proofs.Group.Expansion
import Endorsement.Proofs.Policy.Meaning
import Endorsement.Proofs.Wire.Types

/-!
# Policies for a member of any organisation

A policy that a member of any one of some organisations satisfies is built from
their names, sent as bytes, and compiled where it arrives. There it has one
alternative for each organisation, in the order in which they are named first.

* `Principal.Travels`: names that fit on the wire;
* `Policy.ofMembers`, `Policy.anyMember_eq`: the policy that is built;
* `Policy.compile_ofMembers`: what it compiles to;
* `Policy.anyMember_has_each_once`: its alternatives where it arrives.
-/

namespace Endorsement

/-! ## Principals -/

namespace Principal

/-- The name of an organisation whose principal fits on the wire: eight bytes wide
    is the length of the principal, which has 12 bytes more than the name. There are
    no others in a memory addressed by 64 bits. -/
def Travels (mspId : String) : Prop :=
  (Utf8.encode mspId).length + 12 < 2 ^ 64

variable {mspId : String}

theorem Travels.fits_role (h : Travels mspId) : Wire.Fits (MspRole.mk mspId .member) := by
  refine ⟨Wire.fits_string.2 ?_, trivial, trivial⟩
  exact Nat.lt_of_le_of_lt (Nat.le_add_right _ 12) h

theorem Travels.fits_member (h : Travels mspId) : Wire.Fits (member mspId) := by
  have hlength : (member mspId).bytes.length = (Utf8.encode mspId).length + 12 := by
    change (_ ++ _ ++ Wire.encodeForm 0).length = _
    rw [Wire.encodeForm]
    simp only [List.length_append, Wire.length_littleEndian]
    omega
  exact ⟨trivial, Wire.fits_bytes.2 (hlength ▸ h), trivial⟩

/-- A member of an organisation names it. -/
theorem Travels.mspId_member (h : Travels mspId) : (member mspId).mspId = .ok mspId := by
  change ((Wire.read MspRole (Wire.encode (MspRole.mk mspId .member))).map
    MspRole.mspId).mapError Failure.ofWire = _
  rw [Wire.read_encode h.fits_role]
  rfl

end Principal

namespace Policy

open Principal (Travels)

variable {mspIds : List String}

/-! ## The policy that is built -/

/-- A rule for each of some principals. -/
def signatures (count : Nat) : List Rule :=
  (List.range count).map fun i => .signedBy (Int32.ofNat i)

/-- A policy for a member of any of some organisations. -/
def ofMembers (mspIds : List String) : Policy where
  rule := some (.outOf 1 (signatures mspIds.length))
  identities := mspIds.map .member

theorem anyMember_eq (h : mspIds.length < 2 ^ 31) : anyMember mspIds = .ok (ofMembers mspIds) :=
  if_neg (Nat.not_lt.2 (Nat.le_of_lt_succ h))

theorem fits_ofMembers (h : mspIds.length < 2 ^ 31) (htravels : ∀ id ∈ mspIds, Travels id) :
    Wire.Fits (ofMembers mspIds) := by
  have hlength : mspIds.length < 2 ^ 64 := by omega
  refine ⟨trivial, Rule.fits_outOf.2 ⟨?_, ?_⟩, Wire.fits_list.2 ⟨?_, ?_⟩, trivial⟩
  · rwa [signatures, List.length_map, List.length_range]
  · rw [signatures]
    exact List.forall_mem_map.2 fun _ _ => ⟨trivial, trivial⟩
  · rwa [ofMembers, List.length_map]
  · exact List.forall_mem_map.2 fun id hid => (htravels id hid).fits_member

/-- A policy that arrives is compiled as it was sent. -/
theorem compileBytes_encode {p : Policy} (h : Wire.Fits p) :
    (compileBytes (Wire.encode p)).run.value = p.compile.run.value := by
  rw [compileBytes, ofBytes, Wire.read_encode h]
  rfl

/-! ## Compiling it -/

/-- The principal at a position names the organisation at that position. -/
theorem mspIdAt_member (h : mspIds.length < 2 ^ 31) (htravels : ∀ id ∈ mspIds, Travels id) {i : Nat}
    (hi : i < mspIds.length) :
    Principal.mspIdAt (mspIds.map .member) (Int32.ofNat i) = .ok mspIds[i] := by
  have htoInt : (Int32.ofNat i).toInt = i := Int32.toInt_ofNat_of_lt (by omega)
  rw [Principal.mspIdAt, htoInt, if_neg (Int.not_lt.2 (Int.natCast_nonneg i)), Int.toNat_natCast,
    List.getElem?_map, List.getElem?_eq_getElem hi]
  exact (htravels _ (List.getElem_mem hi)).mspId_member

theorem compileEach_signatures (h : mspIds.length < 2 ^ 31)
    (htravels : ∀ id ∈ mspIds, Travels id) :
    (Rule.compileEach (mspIds.map .member) (signatures mspIds.length)).run.value =
      .ok (mspIds.map fun id => .any [.leaf (.msp id)]) := by
  rw [Rule.compileEach_eq_ok_iff, signatures, List.forall₂_map_left_iff, List.forall₂_map_right_iff,
    List.forall₂_iff_get]
  refine ⟨List.length_range, fun i _ hi => ⟨_, Rule.compile_signedBy_eq_ok_iff.2 ⟨_, ?_, rfl⟩, rfl⟩⟩
  rw [List.get_eq_getElem, List.getElem_range]
  exact mspIdAt_member h htravels hi

/-- It compiles to a choice for each organisation. -/
theorem compile_ofMembers (h : mspIds.length < 2 ^ 31) (htravels : ∀ id ∈ mspIds, Travels id)
    (hne : mspIds ≠ []) : (ofMembers mspIds).compile.run.value =
      .ok (mspIds.map fun id => .all [.any [.leaf (.msp id)]]) := by
  refine Rule.compile_outOf_eq_ok_iff.2 ⟨_, compileEach_signatures h htravels, ?_⟩
  have hone : (1 : Int32).toInt = 1 := rfl
  have hpos := List.length_pos_iff.2 hne
  rw [Group.atLeast_eq_ok_iff, hone, Int.toNat_one, Product.choices_one, List.map_map,
    List.map_map, List.length_map]
  exact ⟨by omega, rfl⟩

/-- Without organisations there are fewer rules than the one that is to be
    satisfied. -/
theorem compile_ofMembers_nil :
    (ofMembers []).compile.run.value = .error (.badThreshold 1 0) := rfl

/-! ## Its alternatives -/

theorem reduce_any_members (mspIds : List String) :
    (Group.any (mspIds.map fun id => .all [.any [.leaf (.msp id)]])).reduce =
      mspIds.eraseDups.map fun id => .all [.leaf (.msp id)] := by
  have hexpansion : (Group.any (mspIds.map fun id => .all [.any [.leaf (.msp id)]])).expansion =
      mspIds.map fun id => .all [.leaf (.msp id)] := by
    rw [Group.expansion, Group.expansionEach_eq_map, List.map_map, ← List.flatMap_def]
    exact List.map_eq_flatMap.symm
  have hsame : ∀ a b : String,
      (Group.all [.leaf (.msp a)]).same (.all [.leaf (.msp b)]) = true ↔ b = a := by
    simp [Group.same_all_iff, Group.sameAll_iff, Group.same_leaf_iff, PeerGroup.same_msp_iff]
  rw [Group.reduce_eq_distinct_expansion, hexpansion]
  exact Group.distinct_map_of_same (fun a b => (hsame a b).trans eq_comm) mspIds

/-- The policy for a member of any of some organisations, which may be named more
    than once and have no name at all, is compiled where it arrives. What it comes
    to is one alternative for each organisation, its leaf alone, in the order in
    which they are named first. Without organisations it is refused: one rule is to
    be satisfied, and there is none. -/
theorem anyMember_has_each_once (mspIds : List String) (h : mspIds.length < 2 ^ 31)
    (htravels : ∀ id ∈ mspIds, Travels id) :
    ∃ p, anyMember mspIds = .ok p ∧
      (mspIds ≠ [] → ∃ groups, (compileBytes (Wire.encode p)).run.value = .ok groups ∧
        (Group.any groups).reduce = mspIds.eraseDups.map fun id => .all [.leaf (.msp id)]) ∧
      (mspIds = [] →
        (compileBytes (Wire.encode p)).run.value = .error (.badThreshold 1 0)) := by
  refine ⟨ofMembers mspIds, anyMember_eq h, fun hne => ⟨_, ?_, reduce_any_members mspIds⟩, ?_⟩
  · rw [compileBytes_encode (fits_ofMembers h htravels), compile_ofMembers h htravels hne]
  · rintro rfl
    rw [compileBytes_encode (fits_ofMembers h htravels), compile_ofMembers_nil]

theorem anyMember_of_repeated :
    ∃ p groups, anyMember ["B", "A", "B", ""] = .ok p ∧
      (compileBytes (Wire.encode p)).run.value = .ok groups ∧
      (Group.any groups).reduce =
        [.all [.leaf (.msp "B")], .all [.leaf (.msp "A")], .all [.leaf (.msp "")]] := by
  have htravels : ∀ id ∈ ["B", "A", "B", ""], Travels id := by
    simp only [List.forall_mem_cons, Travels]
    decide
  obtain ⟨p, hp, hcompiles, -⟩ :=
    anyMember_has_each_once ["B", "A", "B", ""] (by decide) htravels
  obtain ⟨groups, hgroups, hreduce⟩ := hcompiles (List.cons_ne_nil _ _)
  exact ⟨p, groups, hp, hgroups, hreduce⟩

end Policy

end Endorsement
