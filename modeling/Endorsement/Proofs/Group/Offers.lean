import Endorsement.Proofs.Group.Expansion

/-!
# Alternatives up to equality

Which alternatives a group has, when equal ones are not told apart, depends only
on which alternatives its parts have. The order in which parts are combined
changes the order of the alternatives, and which of several equal ones is
listed, but neither how many there are nor what they equal.

* `offers`: the groups that equal an alternative of a group;
* `mem_offers_any`, `mem_offers_all`: what a disjunction and a conjunction offer;
* `joint`, `offers_atLeast`: what a number of groups out of several offer
  together;
* `joint_perm`: the order of the groups does not matter to it;
* `sameAll_reduce`: groups that offer the same have equal alternatives, and
  equally many.
-/

namespace Endorsement.Group

/-- The groups that equal an alternative of a group. -/
def offers (g : Group) : Set Group := {x | covers g.reduce x = true}

theorem mem_offers {g x : Group} : x ∈ g.offers ↔ ∃ a ∈ g.reduce, a.same x = true :=
  covers_iff

theorem offers_eq_covers_expansion {g x : Group} :
    x ∈ g.offers ↔ covers g.expansion x = true := by
  rw [offers, reduce_eq_distinct_expansion, covers_distinct]
  rfl

theorem mem_offers_any {groups : List Group} {x : Group} :
    x ∈ (any groups).offers ↔ ∃ g ∈ groups, x ∈ g.offers := by
  simp only [offers_eq_covers_expansion, expansion, expansionEach_eq_map, covers_iff,
    List.mem_flatten, List.mem_map, exists_exists_and_eq_and]
  constructor
  · rintro ⟨a, ⟨g, hg, ha⟩, h⟩
    exact ⟨g, hg, a, ha, h⟩
  · rintro ⟨g, hg, a, ha, h⟩
    exact ⟨a, ⟨g, hg, ha⟩, h⟩

/-- A conjunction offers what equals the collapsed conjunction of one group that
    each item offers. -/
theorem mem_offers_all {items : List Group} {x : Group} :
    x ∈ (all items).offers ↔ items ≠ [] ∧ ∃ choice,
      List.Forall₂ (fun y S => y ∈ S) choice (items.map offers) ∧
        (all choice).collapse.same x = true := by
  rw [mem_offers, reduce_all]
  constructor
  · rintro ⟨a, ha, hx⟩
    obtain ⟨tuple, htuple, rfl⟩ := exists_of_mem_conjunctions ha
    obtain ⟨hne, hitems⟩ := Product.mem_tuples.1 htuple
    refine ⟨by simpa using hne, tuple, ?_, hx⟩
    rw [List.forall₂_map_right_iff] at hitems ⊢
    exact hitems.imp fun y g hy => covers_of_mem hy
  · rintro ⟨hne, choice, hchoice, hx⟩
    -- Each group chosen equals an alternative of its item.
    obtain ⟨tuple, htuple, hsame⟩ : ∃ tuple, List.Forall₂ (· ∈ ·) tuple (items.map reduce) ∧
        List.Forall₂ (fun a y => a.same y = true) tuple choice := by
      clear hne hx
      induction items generalizing choice with
      | nil =>
        cases hchoice
        exact ⟨[], .nil, .nil⟩
      | cons g items ih =>
        obtain ⟨y, rest, hy, hrest, rfl⟩ := List.forall₂_cons_right_iff.1 hchoice
        obtain ⟨a, ha, hay⟩ := mem_offers.1 hy
        obtain ⟨tuple, htuple, hsame⟩ := ih rest hrest
        exact ⟨a :: tuple, .cons ha htuple, .cons hay hsame⟩
    have hmem : (all tuple).collapse ∈ (Product.tuples (items.map reduce)).map fun items =>
        (all items).collapse :=
      List.mem_map.2 ⟨tuple, Product.mem_tuples.2 ⟨by simpa using hne, htuple⟩, rfl⟩
    obtain ⟨a, ha, hsame'⟩ := exists_same_of_mem hmem
    exact ⟨a, ha, same_trans hsame' (same_trans (same_collapse_of_forall₂ hsame) hx)⟩

/-! ## Numbers of groups -/

/-- What `n` out of several parts offer together, when each of them offers the
    groups of a set. -/
def joint (n : Nat) (parts : List (Set Group)) : Set Group :=
  {x | ∃ chosen choice, chosen.Sublist parts ∧ chosen.length = n ∧
    List.Forall₂ (fun y S => y ∈ S) choice chosen ∧ (all choice).collapse.same x = true}

theorem joint_subset_of_perm {n : Nat} {parts parts' : List (Set Group)} (h : parts.Perm parts') :
    joint n parts ⊆ joint n parts' := by
  rintro x ⟨chosen, choice, hsub, hlen, hchoice, hx⟩
  -- The parts chosen stand in another order in `parts'`, and so does what is
  -- chosen of them.
  obtain ⟨chosen', hperm, hsub'⟩ := hsub.subperm.trans h.subperm
  have hflip : List.Forall₂ (fun S y => y ∈ S) chosen choice := hchoice.flip
  obtain ⟨choice', hchoice', hperm'⟩ := List.perm_comp_forall₂ hperm hflip
  exact ⟨chosen', choice', hsub', hperm.length_eq.trans hlen, hchoice'.flip,
    same_trans (same_collapse_of_perm hperm') hx⟩

theorem joint_perm {n : Nat} {parts parts' : List (Set Group)} (h : parts.Perm parts') :
    joint n parts = joint n parts' :=
  Set.Subset.antisymm (joint_subset_of_perm h) (joint_subset_of_perm h.symm)

/-- A number of groups offers what that many of them offer together. -/
theorem offers_atLeast {threshold : Int32} {groups chosen : List Group}
    (h : atLeast threshold groups = .ok chosen) :
    (any chosen).offers = joint threshold.toInt.toNat (groups.map offers) := by
  obtain ⟨⟨hpos, -⟩, rfl⟩ := atLeast_eq_ok_iff.1 h
  have hsize : 0 < threshold.toInt.toNat := by omega
  ext x
  simp only [mem_offers_any, List.mem_map, exists_exists_and_eq_and, Product.mem_choices,
    mem_offers_all]
  constructor
  · rintro ⟨items, ⟨-, hsub, hlen⟩, -, choice, hchoice, hx⟩
    exact ⟨items.map offers, choice, hsub.map offers, by simpa using hlen, hchoice, hx⟩
  · rintro ⟨chosen, choice, hsub, hlen, hchoice, hx⟩
    obtain ⟨items, hitems, rfl⟩ := List.sublist_map_iff.1 hsub
    rw [List.length_map] at hlen
    exact ⟨items, ⟨hsize, hitems, hlen⟩, List.ne_nil_of_length_pos (by omega), choice, hchoice, hx⟩

/-! ## Equal alternatives -/

/-- Groups that offer the same have equally many alternatives, each of one equal
    to one of the other. -/
theorem sameAll_reduce {g g' : Group} (h : g.offers = g'.offers) :
    sameAll g.reduce g'.reduce = true :=
  sameAll_of_covers_eq (pairwise_reduce g) (pairwise_reduce g')
    (funext fun x => Bool.eq_iff_iff.2 (Set.ext_iff.1 h x))

end Endorsement.Group
