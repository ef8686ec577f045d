import Endorsement.Proofs.Group.Collapse
import Mathlib.Data.Set.List

/-!
# Alternatives, listed exactly

Reducing a group leaves out repetitions at every level, so that products stay
small. What it lists is nevertheless the plain expansion of the group, written
down in full, with the repetitions left out at the end: the same alternatives,
in the same order, with the same items in the same order.

* `expansion`: the alternatives of a group with none left out;
* `distinct_map_expand_distinct`: a product of lists gives the same, up to
  repetitions, as the product of the lists without repetition. What matters is
  the order of tuples: a tuple with an item that equals an earlier one comes
  after an equal tuple with that one;
* `reduce_eq_firsts_expansion`: reducing is expanding without repetition;
* `IsNormal`, `reduce_isNormal`: what it lists is in normal form;
* `IsNormal.reduce_eq`, `reduce_any_reduce`: what is in normal form is its own
  only alternative, so reducing what was listed lists the same again.
-/

namespace Endorsement.Group

/-! ## Expanding -/

mutual

/-- The alternatives of a group, none left out: those of a disjunction are those
    of its groups one after the other; those of a conjunction pick one alternative
    of each item, the last item varying fastest, and there are none without
    items. -/
def expansion : Group → List Group
  | .peer p => [.leaf (.fixed [p])]
  | .leaf peers => [.leaf peers]
  | .any groups => (expansionEach groups).flatten
  | .all items =>
    if items.isEmpty then []
    else (Product.expand (expansionEach items)).map fun choice => collapse (.all choice)

/-- The alternatives of each group, none left out. -/
def expansionEach : List Group → List (List Group)
  | [] => []
  | g :: rest => expansion g :: expansionEach rest

end

theorem expansionEach_eq_map (groups : List Group) :
    expansionEach groups = groups.map expansion := by
  induction groups with
  | nil => rfl
  | cons g groups ih => rw [expansionEach, ih, List.map_cons]

/-! ## Repetitions in products -/

/-- Branches of a product can be freed of repetitions first, if equal tuples give
    equal groups. -/
theorem distinct_map_expand_distinct {f : List Group → Group}
    (hf : ∀ t t', List.Forall₂ (fun a b => a.same b = true) t t' → (f t).same (f t') = true)
    (branches : List (List Group)) :
    distinct ((Product.expand (branches.map distinct)).map f) =
      distinct ((Product.expand branches).map f) := by
  induction branches generalizing f with
  | nil => rfl
  | cons branch branches ih =>
    simp only [List.map_cons, Product.expand, List.map_flatMap, List.map_map]
    have hrest : ∀ a, distinct ((Product.expand (branches.map distinct)).map (f ∘ (a :: ·))) =
        distinct ((Product.expand branches).map (f ∘ (a :: ·))) := fun a =>
      ih fun t t' ht => hf _ _ (.cons (same_refl a) ht)
    -- Tuples that begin with equal groups and go on alike give equal groups.
    have hfirst : ∀ a b, a.same b = true →
        ∀ x ∈ (Product.expand branches).map (f ∘ (b :: ·)),
          covers ((Product.expand branches).map (f ∘ (a :: ·))) x = true := by
      intro a b hab x hx
      obtain ⟨t, ht, rfl⟩ := List.mem_map.1 hx
      refine covers_iff.2 ⟨f (a :: t), List.mem_map.2 ⟨t, ht, rfl⟩, hf _ _ (.cons hab ?_)⟩
      exact List.forall₂_same.2 fun g _ => same_refl g
    rw [distinct_flatMap_congr fun a _ => hrest a, distinct_flatMap_distinct hfirst]

/-! ## Reducing is expanding without repetition -/

/-- Reducing a group is expanding it without repetition. By induction on the group:
    whether repetitions are left out of the branches first, or only once these are
    combined, comes to the same. -/
theorem reduce_eq_distinct_expansion (g : Group) : g.reduce = distinct g.expansion := by
  induction g with
  | peer p => rfl
  | leaf l => rfl
  | any groups ih =>
    have hexpansion : (any groups).expansion = groups.flatMap expansion := by
      rw [expansion, expansionEach_eq_map, List.flatMap_def]
    rw [hexpansion]
    by_cases hone : ∃ g, groups = [g]
    · obtain ⟨g, rfl⟩ := hone
      rw [reduce_any_singleton, ih g List.mem_cons_self, List.flatMap_singleton]
    · rw [reduce_any_of_ne (not_exists.1 hone)]
      exact distinct_flatMap_congr fun g hg => by rw [ih g hg, distinct_distinct]
  | all items ih =>
    rw [reduce_all, expansion, expansionEach_eq_map, conjunctions]
    by_cases hnil : items = []
    · subst hnil
      rfl
    · have hbranches : items.map reduce = (items.map expansion).map distinct := by
        rw [List.map_map]
        exact List.map_congr_left ih
      rw [if_neg (by simpa using hnil), Product.tuples_eq_expand (by simpa using hnil), hbranches]
      exact distinct_map_expand_distinct (fun _ _ => same_collapse_of_forall₂) _

/-- Reducing a group lists the alternatives that equal no earlier one in its
    expansion. A disjunction of one group need not be treated apart: reducing it
    lists what leaving out repetitions among the alternatives of its groups would. -/
theorem reduce_eq_firsts_expansion (g : Group) :
    g.reduce = firsts g.expansion ∧ (any [g]).reduce = distinct (reduceEach [g]).flatten := by
  constructor
  · rw [reduce_eq_distinct_expansion, distinct_eq_firsts]
  · rw [reduce_any_singleton, reduceEach_eq_map, List.map_singleton, List.flatten_singleton,
      reduce_eq_distinct_expansion, distinct_distinct]

/-! ## Normal form -/

/-- A leaf, or a conjunction of at least one leaf and of no two that are equal. -/
inductive IsNormal : Group → Prop
  | leaf (l : PeerGroup) : IsNormal (.leaf l)
  | all {leaves : List PeerGroup} : leaves ≠ [] →
      (leaves.Pairwise fun a b => a.same b = false) → IsNormal (.all (leaves.map .leaf))

/-- No two items of a conjunction that is an alternative are equal. -/
theorem pairwise_items_of_mem_reduce {g : Group} {items : List Group} (h : all items ∈ g.reduce) :
    items.Pairwise fun a b => a.same b = false := by
  induction g with
  | peer p => simp [reduce] at h
  | leaf l => simp [reduce] at h
  | any groups ih =>
    obtain ⟨g, hg, h⟩ := exists_of_mem_reduce_any h
    exact ih g hg h
  | all _ =>
    rw [reduce_all] at h
    obtain ⟨tuple, -, hcollapse⟩ := exists_of_mem_conjunctions h
    rw [collapse_all, flatten] at hcollapse
    rw [all.inj hcollapse]
    exact pairwise_distinct _

theorem isNormal_of_mem_reduce {g a : Group} (h : a ∈ g.reduce) : a.IsNormal := by
  cases isAlternative_of_mem_reduce h with
  | leaf l => exact .leaf l
  | @all items hne hleaves =>
    obtain ⟨leaves, rfl⟩ : items ∈ Set.range (List.map leaf) := by
      rw [Set.range_list_map]
      exact fun g hg => (hleaves g hg).imp fun _ => Eq.symm
    have hitems := pairwise_items_of_mem_reduce h
    rw [List.pairwise_map] at hitems
    exact .all (by simpa using hne) (hitems.imp fun hab => by simpa [same] using hab)

/-- What reducing lists is in normal form, and no two of it are equal. -/
theorem reduce_isNormal (g : Group) :
    (∀ a ∈ g.reduce, a.IsNormal) ∧
      g.reduce.Pairwise fun a b => a.same b = false ∧ b.same a = false := by
  refine ⟨fun a ha => isNormal_of_mem_reduce ha, (pairwise_reduce g).imp fun {a b} hab => ⟨hab, ?_⟩⟩
  rw [Bool.eq_false_iff] at hab ⊢
  exact fun hba => hab (same_symm hba)

/-! ### Reducing again -/

/-- Collapsing keeps what is in normal form as it is. -/
theorem IsNormal.collapse_eq {a : Group} (h : a.IsNormal) : a.collapse = a := by
  cases h with
  | leaf l => rfl
  | @all leaves _ hleaves =>
    rw [collapse_all, flatten_all_eq_self]
    · exact List.forall_mem_map.2 fun _ _ => rfl
    · rw [List.pairwise_map]
      exact hleaves.imp fun hab => by simpa [same] using hab

/-- What is in normal form is its own only alternative. -/
theorem IsNormal.reduce_eq {a : Group} (h : a.IsNormal) : a.reduce = [a] := by
  have hcollapse := h.collapse_eq
  cases h with
  | leaf l => rfl
  | @all leaves hne _ =>
    -- Each leaf is its own only alternative, so there is one tuple of them.
    have hbranches : (leaves.map Group.leaf).map reduce = (leaves.map Group.leaf).map ([·]) := by
      rw [List.map_map, List.map_map]
      exact List.map_congr_left fun _ _ => rfl
    rw [reduce_all, hbranches, conjunctions, Product.tuples_eq_expand (by simpa using hne),
      Product.expand_map_singleton, List.map_singleton, hcollapse]
    rfl

/-- Reducing is idempotent to the letter: the disjunction of what it lists has
    these alternatives, in this order, with these items in this order. -/
theorem reduce_any_reduce (g : Group) : (any g.reduce).reduce = g.reduce := by
  have hself : ∀ a ∈ g.reduce, a.reduce = [a] := fun a ha => (isNormal_of_mem_reduce ha).reduce_eq
  by_cases hone : ∃ a, g.reduce = [a]
  · obtain ⟨a, ha⟩ := hone
    rw [ha, reduce_any_singleton]
    exact hself a (ha ▸ List.mem_singleton_self a)
  · calc (any g.reduce).reduce
        = distinct (g.reduce.flatMap reduce) := reduce_any_of_ne (not_exists.1 hone)
      _ = distinct (g.reduce.flatMap ([·])) := by rw [List.flatMap_congr hself]
      _ = distinct g.reduce := by rw [List.flatMap_singleton']
      _ = g.reduce := distinct_eq_self (pairwise_reduce g)

end Endorsement.Group
