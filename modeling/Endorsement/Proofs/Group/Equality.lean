import Endorsement.Group.Basic
import Mathlib.Data.List.Basic
import Mathlib.Data.List.Nodup
import Mathlib.Data.List.Perm.Subperm

/-!
# Equality of groups as sets

Groups nest in lists, so induction on a group goes over the members of its
list (`Group.induction`).

* `same_peer_iff`, `same_leaf_iff`, `same_all_iff`, `same_any_iff`: what equals a
  group has its form; two conjunctions or disjunctions are equal iff they have
  as many members and each member of one has an equal in the other
  (`sameAll_iff`);
* `same_refl`, `same_symm`, `same_trans`: equality is an equivalence.
-/

namespace Endorsement

namespace PeerGroup

theorem same_fixed_iff {as : List Peer} {b : PeerGroup} : (fixed as).same b = true ↔
    ∃ bs, b = .fixed bs ∧ as.length = bs.length ∧ as ⊆ bs ∧ bs ⊆ as := by
  cases b <;> simp [same, List.subset_def, and_assoc]

/-- Without repetition, fixed leaves are equal iff they have the same peers in some
    order. -/
theorem same_fixed_iff_perm {as bs : List Peer} (h : as.Nodup) :
    (fixed as).same (.fixed bs) = true ↔ as.Perm bs := by
  rw [same_fixed_iff]
  constructor
  · rintro ⟨_, heq, hlen, hab, -⟩
    obtain rfl := fixed.inj heq
    exact (List.subperm_of_subset h hab).perm_of_length_le (Nat.le_of_eq hlen.symm)
  · intro hperm
    exact ⟨bs, rfl, hperm.length_eq, hperm.subset, hperm.symm.subset⟩

theorem same_msp_iff {mspId : String} {b : PeerGroup} :
    (msp mspId).same b = true ↔ b = .msp mspId := by
  cases b with
  | fixed bs => simp [same]
  | msp mspId' => rw [same, beq_iff_eq, msp.injEq, eq_comm]

theorem same_refl (l : PeerGroup) : l.same l = true := by
  cases l <;> simp [same]

theorem same_symm {a b : PeerGroup} (h : a.same b = true) : b.same a = true := by
  cases a with
  | fixed as =>
    obtain ⟨bs, rfl, hlen, hab, hba⟩ := same_fixed_iff.1 h
    exact same_fixed_iff.2 ⟨as, rfl, hlen.symm, hba, hab⟩
  | msp a =>
    obtain rfl := same_msp_iff.1 h
    exact h

theorem same_trans {a b c : PeerGroup} (hab : a.same b = true) (hbc : b.same c = true) :
    a.same c = true := by
  cases a with
  | fixed as =>
    obtain ⟨bs, rfl, hlen, h, h'⟩ := same_fixed_iff.1 hab
    obtain ⟨cs, rfl, hlen', k, k'⟩ := same_fixed_iff.1 hbc
    exact same_fixed_iff.2 ⟨cs, rfl, hlen.trans hlen', fun _ hp => k (h hp), fun _ hp => h' (k' hp)⟩
  | msp a =>
    obtain rfl := same_msp_iff.1 hab
    exact hbc

end PeerGroup

namespace Group

/-- Induction over groups: a conjunction or a disjunction has what all its
    members have. -/
@[elab_as_elim, induction_eliminator]
theorem induction {motive : Group → Prop} (peer : ∀ p, motive (.peer p))
    (leaf : ∀ l, motive (.leaf l))
    (all : ∀ items, (∀ g ∈ items, motive g) → motive (.all items))
    (any : ∀ groups, (∀ g ∈ groups, motive g) → motive (.any groups)) : ∀ g, motive g
  | .peer p => peer p
  | .leaf l => leaf l
  | .all items => all items fun g _ => induction peer leaf all any g
  | .any groups => any groups fun g _ => induction peer leaf all any g

/-! ## Members of both sides -/

theorem coveredBy_iff {as bs : List Group} :
    coveredBy as bs = true ↔ ∀ a ∈ as, ∃ b ∈ bs, same a b = true := by
  induction as with
  | nil => simp [coveredBy]
  | cons a as ih => simp [coveredBy, ih]

theorem covers_iff {as : List Group} {b : Group} :
    covers as b = true ↔ ∃ a ∈ as, same a b = true := by
  induction as with
  | nil => simp [covers]
  | cons a as ih => simp [covers, ih]

theorem sameAll_iff {as bs : List Group} :
    sameAll as bs = true ↔ as.length = bs.length ∧ (∀ a ∈ as, ∃ b ∈ bs, same a b = true) ∧
      ∀ b ∈ bs, ∃ a ∈ as, same a b = true := by
  simp [sameAll, coveredBy_iff, covers_iff, and_assoc]

/-! ## What equals a group -/

theorem same_peer_iff {p : Peer} {b : Group} : (peer p).same b = true ↔ b = .peer p := by
  cases b with
  | peer q => rw [same, beq_iff_eq, peer.injEq, eq_comm]
  | _ => simp [same]

theorem same_leaf_iff {l : PeerGroup} {b : Group} :
    (leaf l).same b = true ↔ ∃ k, b = .leaf k ∧ l.same k = true := by
  cases b <;> simp [same]

theorem same_all_iff {as : List Group} {b : Group} :
    (all as).same b = true ↔ ∃ bs, b = .all bs ∧ sameAll as bs = true := by
  cases b <;> simp [same, sameAll]

theorem same_any_iff {as : List Group} {b : Group} :
    (any as).same b = true ↔ ∃ bs, b = .any bs ∧ sameAll as bs = true := by
  cases b <;> simp [same, sameAll]

/-! ## Equality is an equivalence -/

theorem sameAll_refl {as : List Group} (h : ∀ a ∈ as, a.same a = true) : sameAll as as = true :=
  sameAll_iff.2 ⟨rfl, fun a ha => ⟨a, ha, h a ha⟩, fun a ha => ⟨a, ha, h a ha⟩⟩

theorem sameAll_symm {as bs : List Group}
    (symm : ∀ a ∈ as, ∀ b, a.same b = true → b.same a = true) (h : sameAll as bs = true) :
    sameAll bs as = true := by
  rw [sameAll_iff] at h ⊢
  obtain ⟨hlen, hab, hba⟩ := h
  refine ⟨hlen.symm, fun b hb => ?_, fun a ha => ?_⟩
  · obtain ⟨a, ha, h⟩ := hba b hb
    exact ⟨a, ha, symm a ha b h⟩
  · obtain ⟨b, hb, h⟩ := hab a ha
    exact ⟨b, hb, symm a ha b h⟩

theorem sameAll_trans {as bs cs : List Group}
    (trans : ∀ a ∈ as, ∀ b c, a.same b = true → b.same c = true → a.same c = true)
    (hab : sameAll as bs = true) (hbc : sameAll bs cs = true) : sameAll as cs = true := by
  rw [sameAll_iff] at hab hbc ⊢
  refine ⟨hab.1.trans hbc.1, fun a ha => ?_, fun c hc => ?_⟩
  · obtain ⟨b, hb, h⟩ := hab.2.1 a ha
    obtain ⟨c, hc, h'⟩ := hbc.2.1 b hb
    exact ⟨c, hc, trans a ha b c h h'⟩
  · obtain ⟨b, hb, h'⟩ := hbc.2.2 c hc
    obtain ⟨a, ha, h⟩ := hab.2.2 b hb
    exact ⟨a, ha, trans a ha b c h h'⟩

theorem same_refl (g : Group) : g.same g = true := by
  induction g with
  | peer p => exact same_peer_iff.2 rfl
  | leaf l => exact same_leaf_iff.2 ⟨l, rfl, PeerGroup.same_refl l⟩
  | all items ih => exact same_all_iff.2 ⟨items, rfl, sameAll_refl ih⟩
  | any groups ih => exact same_any_iff.2 ⟨groups, rfl, sameAll_refl ih⟩

theorem same_symm {a b : Group} (h : a.same b = true) : b.same a = true := by
  induction a generalizing b with
  | peer p =>
    obtain rfl := same_peer_iff.1 h
    exact h
  | leaf l =>
    obtain ⟨k, rfl, h⟩ := same_leaf_iff.1 h
    exact same_leaf_iff.2 ⟨l, rfl, PeerGroup.same_symm h⟩
  | all as ih =>
    obtain ⟨bs, rfl, h⟩ := same_all_iff.1 h
    exact same_all_iff.2 ⟨as, rfl, sameAll_symm (fun a ha _ => ih a ha) h⟩
  | any as ih =>
    obtain ⟨bs, rfl, h⟩ := same_any_iff.1 h
    exact same_any_iff.2 ⟨as, rfl, sameAll_symm (fun a ha _ => ih a ha) h⟩

theorem same_trans {a b c : Group} (hab : a.same b = true) (hbc : b.same c = true) :
    a.same c = true := by
  induction a generalizing b c with
  | peer p =>
    obtain rfl := same_peer_iff.1 hab
    exact hbc
  | leaf l =>
    obtain ⟨k, rfl, hlk⟩ := same_leaf_iff.1 hab
    obtain ⟨j, rfl, hkj⟩ := same_leaf_iff.1 hbc
    exact same_leaf_iff.2 ⟨j, rfl, PeerGroup.same_trans hlk hkj⟩
  | all as ih =>
    obtain ⟨bs, rfl, hab⟩ := same_all_iff.1 hab
    obtain ⟨cs, rfl, hbc⟩ := same_all_iff.1 hbc
    exact same_all_iff.2 ⟨cs, rfl, sameAll_trans (fun a ha _ _ => ih a ha) hab hbc⟩
  | any as ih =>
    obtain ⟨bs, rfl, hab⟩ := same_any_iff.1 hab
    obtain ⟨cs, rfl, hbc⟩ := same_any_iff.1 hbc
    exact same_any_iff.2 ⟨cs, rfl, sameAll_trans (fun a ha _ _ => ih a ha) hab hbc⟩

end Group

end Endorsement
