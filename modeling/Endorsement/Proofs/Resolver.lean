import Endorsement.Proofs.Group.Alternatives
import Endorsement.Resolver

/-!
# What resolvers denote

A disjunction of groups is a monotone statement about the peers at hand, and
its candidates are the ways to make it true.

* `Group.mem_legs_of_mem_reduce`: alternatives have no leaves that the group has
  not;
* `offered`: the candidates when the current peers of organisations are known;
* `exists_offered_iff`: alternatives hold under a set of peers iff a candidate
  lies in it;
* `candidates_denote_groups`: alternatives are missing iff the disjunction can
  not hold at all, and otherwise its candidates denote it.
-/

namespace Endorsement

variable {v : Valuation}

/-! ## Legs -/

namespace Group

theorem legsOfEach_eq_flatMap (groups : List Group) : legsOfEach groups = groups.flatMap legs := by
  induction groups with
  | nil => rfl
  | cons g groups ih => rw [legsOfEach, ih, List.flatMap_cons]

theorem mem_legs_all {items : List Group} {l : PeerGroup} :
    l ∈ (all items).legs ↔ ∃ g ∈ items, l ∈ g.legs := by
  rw [legs, legsOfEach_eq_flatMap, List.mem_flatMap]

theorem mem_legs_any {groups : List Group} {l : PeerGroup} :
    l ∈ (any groups).legs ↔ ∃ g ∈ groups, l ∈ g.legs := by
  rw [legs, legsOfEach_eq_flatMap, List.mem_flatMap]

theorem mem_legs_of_mem_flatten {g x : Group} {l : PeerGroup} (hx : x ∈ g.flatten)
    (hl : l ∈ x.legs) : l ∈ g.legs := by
  induction g generalizing x with
  | all items ih =>
    rw [flatten] at hx
    obtain ⟨g, hg, hx⟩ := mem_merged.1 (mem_of_mem_distinct hx)
    exact mem_legs_all.2 ⟨g, hg, ih g hg hx hl⟩
  | _ =>
    obtain rfl := List.mem_singleton.1 hx
    exact hl

/-- Collapsing adds no leaves. -/
theorem mem_legs_of_collapse {g : Group} {l : PeerGroup} (h : l ∈ g.collapse.legs) :
    l ∈ g.legs := by
  rw [collapse] at h
  split at h
  · obtain ⟨x, hx, hl⟩ := mem_legs_all.1 h
    exact mem_legs_of_mem_flatten hx hl
  · exact h

/-- The legs of an alternative are legs of the group. -/
theorem mem_legs_of_mem_reduce {g a : Group} {l : PeerGroup} (ha : a ∈ g.reduce)
    (hl : l ∈ a.legs) : l ∈ g.legs := by
  induction g generalizing a with
  | peer p =>
    obtain rfl : a = .leaf (.fixed [p]) := by simpa [reduce] using ha
    exact hl
  | leaf l =>
    obtain rfl : a = .leaf l := by simpa [reduce] using ha
    exact hl
  | any groups ih =>
    obtain ⟨g, hg, ha⟩ := exists_of_mem_reduce_any ha
    exact mem_legs_any.2 ⟨g, hg, ih g hg ha hl⟩
  | all items ih =>
    rw [reduce_all] at ha
    obtain ⟨tuple, htuple, rfl⟩ := exists_of_mem_conjunctions ha
    -- The leg is one of an item of the tuple, which is an alternative of an item of
    -- the conjunction.
    obtain ⟨x, hx, hl⟩ := mem_legs_all.1 (mem_legs_of_collapse hl)
    obtain ⟨branch, hbranch, hx⟩ := Product.exists_list_of_mem_tuple htuple hx
    obtain ⟨g, hg, rfl⟩ := List.mem_map.1 hbranch
    exact mem_legs_all.2 ⟨g, hg, ih g hg hx hl⟩

/-- An alternative holds iff all its legs do. -/
theorem IsAlternative.forall_legs_iff {a : Group} (h : a.IsAlternative) :
    (∀ l ∈ a.legs, v.leaf l) ↔ a.Holds v := by
  cases h with
  | leaf l => simp [legs]
  | @all items hne hleaves =>
    rw [holds_all, and_iff_right hne]
    constructor
    · intro hlegs g hg
      obtain ⟨l, rfl⟩ := hleaves g hg
      exact holds_leaf.2 (hlegs l (mem_legs_all.2 ⟨_, hg, List.mem_singleton_self l⟩))
    · intro hitems l hl
      obtain ⟨g, hg, hl⟩ := mem_legs_all.1 hl
      obtain ⟨k, rfl⟩ := hleaves g hg
      obtain rfl : l = k := by simpa [legs] using hl
      exact holds_leaf.1 (hitems _ hg)

theorem IsAlternative.legs_ne_nil {a : Group} (h : a.IsAlternative) : a.legs ≠ [] := by
  cases h with
  | leaf l => simp [legs]
  | @all items hne hleaves =>
    obtain ⟨g, hg⟩ := List.exists_mem_of_ne_nil items hne
    obtain ⟨l, rfl⟩ := hleaves g hg
    exact List.ne_nil_of_mem (mem_legs_all.2 ⟨_, hg, List.mem_singleton_self l⟩)

/-- A conjunction of leaves is made of its legs. -/
theorem IsAlternative.items_eq {items : List Group} (h : (Group.all items).IsAlternative) :
    items = (Group.all items).legs.map .leaf := by
  cases h with
  | all _ hleaves =>
    rw [legs, legsOfEach_eq_flatMap]
    clear * - hleaves
    induction items with
    | nil => rfl
    | cons g items ih =>
      rw [List.forall_mem_cons] at hleaves
      obtain ⟨l, rfl⟩ := hleaves.1
      rw [List.flatMap_cons, List.map_append, ← ih hleaves.2]
      rfl

end Group

namespace Resolver

/-! ## Candidates -/

/-- The candidates when the current peers of organisations are known. -/
def offered (lookup : String → List Peer) (alternatives : List Group) : List Candidate :=
  (candidates (m := Id) lookup alternatives).run

theorem offered_eq_flatMap (lookup : String → List Peer) (alternatives : List Group) :
    offered lookup alternatives =
      alternatives.flatMap fun a => Product.tuples (a.legs.map (·.current lookup)) := by
  simp [offered, candidates, candidatesOf, List.flatMap_def, PeerGroup.current]

/-- Some candidate lies in a set of peers iff some alternative holds under it. -/
theorem exists_offered_iff {lookup : String → List Peer} {alternatives : List Group}
    (h : ∀ a ∈ alternatives, a.IsAlternative) (S : Set Peer) :
    (∃ candidate ∈ offered lookup alternatives, ∀ p ∈ candidate, p ∈ S) ↔
      ∃ a ∈ alternatives, a.Holds (.under lookup S) := by
  -- A candidate of an alternative takes one current peer for each of its legs,
  -- and lies in `S` iff all of these peers do.
  have htuples : ∀ a ∈ alternatives,
      ((∃ candidate ∈ Product.tuples (a.legs.map (·.current lookup)), ∀ p ∈ candidate, p ∈ S) ↔
        a.Holds (.under lookup S)) := by
    intro a ha
    rw [Product.exists_tuple_iff, List.forall_mem_map, ← (h a ha).forall_legs_iff]
    exact and_iff_right (by simpa using (h a ha).legs_ne_nil)
  rw [offered_eq_flatMap]
  constructor
  · rintro ⟨candidate, hcandidate, hS⟩
    obtain ⟨a, ha, hcandidate⟩ := List.mem_flatMap.1 hcandidate
    exact ⟨a, ha, (htuples a ha).1 ⟨candidate, hcandidate, hS⟩⟩
  · rintro ⟨a, ha, hholds⟩
    obtain ⟨candidate, hcandidate, hS⟩ := (htuples a ha).2 hholds
    exact ⟨candidate, List.mem_flatMap.2 ⟨a, ha, hcandidate⟩, hS⟩

/-- A candidate has a peer at least. -/
theorem ne_nil_of_mem_offered {lookup : String → List Peer} {alternatives : List Group}
    {candidate : Candidate} (h : candidate ∈ offered lookup alternatives) : candidate ≠ [] := by
  rw [offered_eq_flatMap] at h
  obtain ⟨a, -, h⟩ := List.mem_flatMap.1 h
  exact Product.ne_nil_of_mem_tuples h

/-- The peers of a candidate are current peers of leaves. -/
theorem exists_current_of_mem_offered {lookup : String → List Peer} {alternatives : List Group}
    {candidate : Candidate} (h : candidate ∈ offered lookup alternatives) {p : Peer}
    (hp : p ∈ candidate) : ∃ a ∈ alternatives, ∃ l ∈ a.legs, p ∈ l.current lookup := by
  rw [offered_eq_flatMap] at h
  obtain ⟨a, ha, h⟩ := List.mem_flatMap.1 h
  obtain ⟨peers, hpeers, hp⟩ := Product.exists_list_of_mem_tuple h hp
  obtain ⟨l, hl, rfl⟩ := List.mem_map.1 hpeers
  exact ⟨a, ha, l, hl, hp⟩

/-! ## Building resolvers -/

theorem value_alternativesOf (groups : List Group) :
    (alternativesOf groups).run.value =
      if (Group.any groups).reduce = [] then .error .noAlternatives
      else .ok (Group.any groups).reduce := by
  by_cases h : (Group.any groups).reduce = []
  · simp [alternativesOf, h]
  · simp [alternativesOf, h, Except.map]

/-- There are no alternatives iff the group is false even if all its peers and
    leaves hold. -/
theorem reduce_eq_nil_iff (g : Group) : g.reduce = [] ↔ ¬g.Holds .always := by
  rw [← Group.exists_reduce_holds]
  constructor
  · intro h
    simp [h]
  · -- Any alternative there is would hold if all leaves do.
    intro h
    refine List.eq_nil_iff_forall_not_mem.2 fun a ha => h ⟨a, ha, ?_⟩
    exact (Group.isAlternative_of_mem_reduce ha).forall_legs_iff.1 fun _ _ => trivial

/-- Building fails exactly for a disjunction that is false even if all its peers
    and leaves hold. Any other holds under exactly the sets of peers in which
    one of its candidates lies. -/
theorem candidates_denote_groups (groups : List Group) (lookup : String → List Peer) :
    ((alternativesOf groups).run.value = .error .noAlternatives ↔
        ¬(Group.any groups).Holds .always) ∧
      ((Group.any groups).Holds .always →
        ∃ alternatives, (alternativesOf groups).run.value = .ok alternatives ∧
          ∀ S : Set Peer, (Group.any groups).Holds (.under lookup S) ↔
            ∃ candidate ∈ offered lookup alternatives, ∀ p ∈ candidate, p ∈ S) := by
  rw [value_alternativesOf, ← reduce_eq_nil_iff]
  constructor
  · split <;> simp_all
  · intro h
    have hne : (Group.any groups).reduce ≠ [] := fun hnil => (reduce_eq_nil_iff _).1 hnil h
    refine ⟨(Group.any groups).reduce, if_neg hne, fun S => ?_⟩
    rw [exists_offered_iff (fun _ => Group.isAlternative_of_mem_reduce), Group.exists_reduce_holds]

end Resolver

end Endorsement
