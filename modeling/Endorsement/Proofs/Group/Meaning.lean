import Endorsement.Proofs.Group.Distinct
import Mathlib.Data.Set.Insert

/-!
# What groups mean

A group is a statement about the peers at hand. A valuation says which peers
and which leaves hold; a disjunction holds if one of its groups does, and a
conjunction if it has items and all of them do.

* `Valuation`: which peers and leaves hold, equal leaves alike;
* `Valuation.under`: under a set of peers, those of the set hold, and the leaves
  with a current peer in it;
* `Group.Holds`: the meaning of a group;
* `holds_congr`: equal groups mean the same;
* `forall_distinct_holds`, `exists_distinct_holds`: leaving out repetitions
  changes no meaning;
* `same_sound`: what equality of groups is, and what it may be used for.
-/

namespace Endorsement

/-! ## Valuations -/

/-- Which peers and which leaves hold. -/
structure Valuation where
  peer : Peer → Prop
  leaf : PeerGroup → Prop
  /-- The leaf of a single peer is that peer. -/
  leaf_single : ∀ p, leaf (.fixed [p]) ↔ peer p
  /-- Leaves that are equal as sets hold alike. -/
  leaf_congr : ∀ {a b : PeerGroup}, a.same b = true → (leaf a ↔ leaf b)

namespace PeerGroup

/-- The current peers of a leaf, those of an organisation being known. -/
def current (lookup : String → List Peer) (l : PeerGroup) : List Peer :=
  (l.peers (m := Id) lookup).run

@[simp] theorem current_fixed (lookup : String → List Peer) (peers : List Peer) :
    (fixed peers).current lookup = peers := rfl

@[simp] theorem current_msp (lookup : String → List Peer) (mspId : String) :
    (msp mspId).current lookup = lookup mspId := rfl

/-- Equal leaves have the same current peers. -/
theorem mem_current_congr {a b : PeerGroup} (h : a.same b = true) (lookup : String → List Peer)
    (p : Peer) : p ∈ a.current lookup ↔ p ∈ b.current lookup := by
  cases a with
  | fixed as =>
    obtain ⟨bs, rfl, -, hab, hba⟩ := same_fixed_iff.1 h
    exact ⟨fun hp => hab hp, fun hp => hba hp⟩
  | msp a =>
    obtain rfl := same_msp_iff.1 h
    rfl

end PeerGroup

namespace Valuation

/-- Under a set of peers, its peers hold, and the leaves with a current peer in
    it. -/
def under (lookup : String → List Peer) (S : Set Peer) : Valuation where
  peer p := p ∈ S
  leaf l := ∃ p ∈ l.current lookup, p ∈ S
  leaf_single p := by simp
  leaf_congr h := by simp only [PeerGroup.mem_current_congr h]

/-- Every peer and every leaf holds. -/
def always : Valuation where
  peer _ := True
  leaf _ := True
  leaf_single _ := Iff.rfl
  leaf_congr _ := Iff.rfl

end Valuation

namespace Group

/-! ## Meaning -/

variable (v : Valuation)

mutual

/-- Whether a group holds. -/
def Holds : Group → Prop
  | .peer p => v.peer p
  | .leaf l => v.leaf l
  | .all items => items ≠ [] ∧ AllHold items
  | .any groups => SomeHolds groups

/-- Whether all groups hold. -/
def AllHold : List Group → Prop
  | [] => True
  | g :: rest => Holds g ∧ AllHold rest

/-- Whether some group holds. -/
def SomeHolds : List Group → Prop
  | [] => False
  | g :: rest => Holds g ∨ SomeHolds rest

end

variable {v}

theorem allHold_iff {groups : List Group} : AllHold v groups ↔ ∀ g ∈ groups, g.Holds v := by
  induction groups with
  | nil => simp [AllHold]
  | cons g groups ih => simp [AllHold, ih]

theorem someHolds_iff {groups : List Group} : SomeHolds v groups ↔ ∃ g ∈ groups, g.Holds v := by
  induction groups with
  | nil => simp [SomeHolds]
  | cons g groups ih => simp [SomeHolds, ih]

@[simp] theorem holds_peer {p : Peer} : (peer p).Holds v ↔ v.peer p := Iff.of_eq (Holds.eq_1 v p)

@[simp] theorem holds_leaf {l : PeerGroup} : (leaf l).Holds v ↔ v.leaf l :=
  Iff.of_eq (Holds.eq_2 v l)

@[simp] theorem holds_all {items : List Group} :
    (all items).Holds v ↔ items ≠ [] ∧ ∀ g ∈ items, g.Holds v := by
  rw [Holds, allHold_iff]

@[simp] theorem holds_any {groups : List Group} :
    (any groups).Holds v ↔ ∃ g ∈ groups, g.Holds v := by
  rw [Holds, someHolds_iff]

/-! ## Equality and repetition -/

/-- Equal groups mean the same. -/
theorem holds_congr {a b : Group} (h : a.same b = true) : a.Holds v ↔ b.Holds v := by
  induction a generalizing b with
  | peer p =>
    obtain rfl := same_peer_iff.1 h
    rfl
  | leaf l =>
    obtain ⟨k, rfl, h⟩ := same_leaf_iff.1 h
    rw [holds_leaf, holds_leaf, v.leaf_congr h]
  | all as ih =>
    obtain ⟨bs, rfl, h⟩ := same_all_iff.1 h
    obtain ⟨hlen, hab, hba⟩ := sameAll_iff.1 h
    -- Equal conjunctions have equally many items, so both are empty or none is.
    have hnil : as ≠ [] ↔ bs ≠ [] := by
      rw [← List.length_pos_iff, ← List.length_pos_iff, hlen]
    rw [holds_all, holds_all, hnil]
    refine and_congr_right fun _ => ⟨fun h b hb => ?_, fun h a ha => ?_⟩
    · obtain ⟨a, ha, hsame⟩ := hba b hb
      exact (ih a ha hsame).1 (h a ha)
    · obtain ⟨b, hb, hsame⟩ := hab a ha
      exact (ih a ha hsame).2 (h b hb)
  | any as ih =>
    obtain ⟨bs, rfl, h⟩ := same_any_iff.1 h
    obtain ⟨-, hab, hba⟩ := sameAll_iff.1 h
    rw [holds_any, holds_any]
    constructor
    · rintro ⟨a, ha, h⟩
      obtain ⟨b, hb, hsame⟩ := hab a ha
      exact ⟨b, hb, (ih a ha hsame).1 h⟩
    · rintro ⟨b, hb, h⟩
      obtain ⟨a, ha, hsame⟩ := hba b hb
      exact ⟨a, ha, (ih a ha hsame).2 h⟩

theorem forall_distinct_holds {groups : List Group} :
    (∀ g ∈ distinct groups, g.Holds v) ↔ ∀ g ∈ groups, g.Holds v := by
  refine ⟨fun h g hg => ?_, fun h g hg => h g (mem_of_mem_distinct hg)⟩
  obtain ⟨g', hg', hsame⟩ := exists_same_of_mem hg
  exact (holds_congr hsame).1 (h g' hg')

theorem exists_distinct_holds {groups : List Group} :
    (∃ g ∈ distinct groups, g.Holds v) ↔ ∃ g ∈ groups, g.Holds v := by
  constructor
  · rintro ⟨g, hg, h⟩
    exact ⟨g, mem_of_mem_distinct hg, h⟩
  · rintro ⟨g, hg, h⟩
    obtain ⟨g', hg', hsame⟩ := exists_same_of_mem hg
    exact ⟨g', hg', (holds_congr hsame).2 h⟩

/-- A group that equals one of a list adds nothing to what the list means. -/
theorem exists_holds_of_covers {groups : List Group} {g : Group} (h : covers groups g = true)
    (hg : g.Holds v) : ∃ a ∈ groups, a.Holds v := by
  obtain ⟨a, ha, hsame⟩ := covers_iff.1 h
  exact ⟨a, ha, (holds_congr hsame).2 hg⟩

/-! ## Equality is sound -/

/-- Equality of leaves, of groups and of the groups of a disjunction is an
    equivalence. Where nothing is repeated, it is equality up to order. Equal
    groups hold under the same sets of peers, so that no way to satisfy a group is
    lost if it is left out of a list that has an equal one. -/
theorem same_sound :
    (Equivalence fun a b : PeerGroup => a.same b = true) ∧
    (Equivalence fun a b : Group => a.same b = true) ∧
    (Equivalence fun as bs : List Group => sameAll as bs = true) ∧
    (∀ as bs : List Peer, as.Nodup →
      ((PeerGroup.fixed as).same (.fixed bs) = true ↔ as.Perm bs)) ∧
    (∀ as bs : List Group, (as.Pairwise fun a b => a.same b = false) →
      ((all as).same (all bs) = true ↔ Rearranged as bs) ∧
      ((any as).same (any bs) = true ↔ Rearranged as bs)) ∧
    (∀ a b : Group, a.same b = true → ∀ (lookup : String → List Peer) (S : Set Peer),
      a.Holds (.under lookup S) ↔ b.Holds (.under lookup S)) ∧
    ∀ (groups : List Group) (g : Group), covers groups g = true →
      ∀ (lookup : String → List Peer) (S : Set Peer), g.Holds (.under lookup S) →
        ∃ a ∈ groups, a.Holds (.under lookup S) := by
  refine ⟨⟨PeerGroup.same_refl, PeerGroup.same_symm, PeerGroup.same_trans⟩,
    ⟨same_refl, same_symm, same_trans⟩, ⟨?_, ?_, ?_⟩, fun as bs h => ?_, fun as bs h => ?_,
    fun a b h lookup S => holds_congr h, fun groups g h lookup S => exists_holds_of_covers h⟩
  · exact fun as => sameAll_refl fun a _ => same_refl a
  · exact sameAll_symm fun _ _ _ => same_symm
  · exact sameAll_trans fun _ _ _ _ => same_trans
  · exact PeerGroup.same_fixed_iff_perm h
  · rw [same_all_iff, same_any_iff, ← sameAll_iff_rearranged h]
    simp

/-- Two organisations in one order and in the other. -/
theorem swapped_sound :
    let as := [leaf (.msp "A"), leaf (.msp "B")]
    let bs := [leaf (.msp "B"), leaf (.msp "A")]
    let p : Peer := { url := "a:1", mspId := "A" }
    let q : Peer := { url := "b:1", mspId := "B" }
    ([p, q].Nodup ∧ [p, q].Perm [q, p]) ∧
    ((as.Pairwise fun a b => a.same b = false) ∧ Rearranged as bs) ∧
    ((all as).same (all bs) = true ∧ ∀ (lookup : String → List Peer) (S : Set Peer),
      (all as).Holds (.under lookup S) ↔ (all bs).Holds (.under lookup S)) ∧
    covers [all as] (all bs) = true ∧ ∃ a ∈ [all as], a.Holds (.under (fun _ => [p]) {p}) := by
  intro as bs p q
  obtain ⟨-, -, -, hpeers, hlists, hmeans, hleft⟩ := same_sound
  have hnodup : [p, q].Nodup := by decide
  have hpairwise : as.Pairwise fun a b => a.same b = false := by decide
  have hsame : (all as).same (all bs) = true := by decide
  have hcovers : covers [all as] (all bs) = true := by decide
  have hholds : (all bs).Holds (.under (fun _ => [p]) {p}) := by simp [bs, Valuation.under]
  exact ⟨⟨hnodup, (hpeers _ _ hnodup).1 (by decide)⟩,
    ⟨hpairwise, (hlists as bs hpairwise).1.1 hsame⟩, ⟨hsame, hmeans _ _ hsame⟩, hcovers,
    hleft _ _ hcovers _ _ hholds⟩

end Group

end Endorsement
