import Endorsement.Group.Reduce
import Endorsement.Proofs.Group.Meaning
import Endorsement.Proofs.Product

/-!
# What alternatives mean

A group means the disjunction of its alternatives, and an alternative is a leaf
or a conjunction of leaves.

* `Filled`: no conjunction merged by collapsing is empty;
* `holds_collapse`: collapsing such a group does not change its meaning;
* `IsAlternative`, `isAlternative_of_mem_reduce`: the form of alternatives;
* `exists_reduce_holds`: a group holds iff one of its alternatives does;
* `pairwise_reduce`, `nodup_reduce`: no alternative is listed twice;
* `atLeast_eq_ok_iff`, `atLeast_eq_error_iff`, `exists_atLeast_holds`: a number of
  groups out of several.
-/

namespace Endorsement.Group

variable {v : Valuation}

/-! ## Collapsing conjunctions -/

mutual

/-- Neither a group nor the conjunctions nested in it are empty conjunctions. -/
def Filled : Group → Prop
  | .all items => items ≠ [] ∧ AllFilled items
  | _ => True

/-- All groups are filled. -/
def AllFilled : List Group → Prop
  | [] => True
  | g :: rest => Filled g ∧ AllFilled rest

end

theorem allFilled_iff {groups : List Group} : AllFilled groups ↔ ∀ g ∈ groups, g.Filled := by
  induction groups with
  | nil => simp [AllFilled]
  | cons g groups ih => simp [AllFilled, ih]

theorem filled_all {items : List Group} :
    (all items).Filled ↔ items ≠ [] ∧ ∀ g ∈ items, g.Filled := by
  rw [Filled, allFilled_iff]

theorem flatten_of_not_isAll {g : Group} (h : g.isAll = false) : g.flatten = [g] := by
  cases g <;> simp_all [flatten, isAll]

theorem mem_flattenNested {items : List Group} {x : Group} :
    x ∈ flattenNested items ↔ ∃ g ∈ items, g.isAll = true ∧ x ∈ g.flatten := by
  induction items with
  | nil => simp [flattenNested]
  | cons g items ih =>
    rw [flattenNested]
    split <;> simp_all

/-- What a conjunction is merged from: for each item, what that item is merged
    from. -/
theorem mem_merged {items : List Group} {x : Group} :
    x ∈ items.filter (fun g => !g.isAll) ++ flattenNested items ↔
      ∃ g ∈ items, x ∈ g.flatten := by
  rw [List.mem_append, List.mem_filter, mem_flattenNested]
  constructor
  -- An item that is no conjunction is merged from itself alone.
  · rintro (⟨hx, hall⟩ | ⟨g, hg, -, hx⟩)
    · exact ⟨x, hx, by simp [flatten_of_not_isAll (by simpa using hall)]⟩
    · exact ⟨g, hg, hx⟩
  · rintro ⟨g, hg, hx⟩
    by_cases hall : g.isAll = true
    · exact .inr ⟨g, hg, hall, hx⟩
    · rw [Bool.not_eq_true] at hall
      obtain rfl : x = g := by simpa [flatten_of_not_isAll hall] using hx
      exact .inl ⟨hg, by simp [hall]⟩

theorem flatten_ne_nil {g : Group} (h : g.Filled) : g.flatten ≠ [] := by
  induction g with
  | all items ih =>
    obtain ⟨hne, hfilled⟩ := filled_all.1 h
    obtain ⟨g, hg⟩ := List.exists_mem_of_ne_nil items hne
    obtain ⟨x, hx⟩ := List.exists_mem_of_ne_nil _ (ih g hg (hfilled g hg))
    rw [flatten]
    exact distinct_ne_nil (List.ne_nil_of_mem (mem_merged.2 ⟨g, hg, hx⟩))
  | _ => simp [flatten]

theorem forall_flatten_holds {g : Group} (h : g.Filled) :
    (∀ x ∈ g.flatten, x.Holds v) ↔ g.Holds v := by
  induction g with
  | all items ih =>
    obtain ⟨hne, hfilled⟩ := filled_all.1 h
    rw [flatten, forall_distinct_holds, holds_all, and_iff_right hne]
    constructor
    · intro hmerged g hg
      exact (ih g hg (hfilled g hg)).1 fun x hx => hmerged x (mem_merged.2 ⟨g, hg, hx⟩)
    · intro hitems x hx
      obtain ⟨g, hg, hx⟩ := mem_merged.1 hx
      exact (ih g hg (hfilled g hg)).2 (hitems g hg) x hx
  | _ => simp [flatten]

/-- Collapsing does not change what a group means. -/
theorem holds_collapse {g : Group} (h : g.Filled) : g.collapse.Holds v ↔ g.Holds v := by
  rw [collapse]
  split
  · rw [holds_all, forall_flatten_holds h, and_iff_right (flatten_ne_nil h)]
  · rfl

/-! ### Equal conjunctions -/

theorem collapse_all (items : List Group) : (all items).collapse = .all (all items).flatten :=
  if_pos rfl

theorem covers_flatten_all {items : List Group} {x : Group} :
    covers (all items).flatten x = true ↔ ∃ g ∈ items, covers g.flatten x = true := by
  rw [flatten, covers_distinct, covers_iff]
  constructor
  · rintro ⟨y, hy, hsame⟩
    obtain ⟨g, hg, hy⟩ := mem_merged.1 hy
    exact ⟨g, hg, covers_iff.2 ⟨y, hy, hsame⟩⟩
  · rintro ⟨g, hg, h⟩
    obtain ⟨y, hy, hsame⟩ := covers_iff.1 h
    exact ⟨y, mem_merged.2 ⟨g, hg, hy⟩, hsame⟩

/-- Equal groups are merged from equal items. -/
theorem covers_flatten_congr {a b x : Group} (h : a.same b = true) :
    covers a.flatten x = true ↔ covers b.flatten x = true := by
  induction a generalizing b with
  | peer p =>
    obtain rfl := same_peer_iff.1 h
    rfl
  | leaf l =>
    obtain ⟨k, rfl, -⟩ := same_leaf_iff.1 h
    simp only [flatten, covers_iff, List.mem_singleton, exists_eq_left]
    exact ⟨same_trans (same_symm h), same_trans h⟩
  | any as =>
    obtain ⟨bs, rfl, -⟩ := same_any_iff.1 h
    simp only [flatten, covers_iff, List.mem_singleton, exists_eq_left]
    exact ⟨same_trans (same_symm h), same_trans h⟩
  | all as ih =>
    obtain ⟨bs, rfl, h⟩ := same_all_iff.1 h
    obtain ⟨-, hab, hba⟩ := sameAll_iff.1 h
    rw [covers_flatten_all, covers_flatten_all]
    constructor
    · rintro ⟨a, ha, hx⟩
      obtain ⟨b, hb, hsame⟩ := hab a ha
      exact ⟨b, hb, (ih a ha hsame).1 hx⟩
    · rintro ⟨b, hb, hx⟩
      obtain ⟨a, ha, hsame⟩ := hba b hb
      exact ⟨a, ha, (ih a ha hsame).2 hx⟩

/-- Conjunctions of equal items collapse to equal ones, whatever the order of
    the items and however often each occurs. -/
theorem same_collapse {as bs : List Group} (hab : ∀ a ∈ as, ∃ b ∈ bs, a.same b = true)
    (hba : ∀ b ∈ bs, ∃ a ∈ as, a.same b = true) :
    (all as).collapse.same (all bs).collapse = true := by
  have hcovers : covers (all as).flatten = covers (all bs).flatten := by
    funext x
    rw [Bool.eq_iff_iff, covers_flatten_all, covers_flatten_all]
    constructor
    · rintro ⟨a, ha, hx⟩
      obtain ⟨b, hb, hsame⟩ := hab a ha
      exact ⟨b, hb, (covers_flatten_congr hsame).1 hx⟩
    · rintro ⟨b, hb, hx⟩
      obtain ⟨a, ha, hsame⟩ := hba b hb
      exact ⟨a, ha, (covers_flatten_congr hsame).2 hx⟩
  rw [flatten, flatten, covers_distinct, covers_distinct] at hcovers
  rw [collapse_all, collapse_all, flatten, flatten]
  exact same_all_iff.2 ⟨_, rfl, sameAll_distinct hcovers⟩

/-- Conjunctions whose items are equal as sets collapse to equal ones. -/
theorem same_collapse_of_sameAll {as bs : List Group} (h : sameAll as bs = true) :
    (all as).collapse.same (all bs).collapse = true :=
  same_collapse (sameAll_iff.1 h).2.1 (sameAll_iff.1 h).2.2

theorem same_collapse_of_forall₂ {as bs : List Group}
    (h : List.Forall₂ (fun a b => a.same b = true) as bs) :
    (all as).collapse.same (all bs).collapse = true :=
  same_collapse_of_sameAll (sameAll_of_forall₂ h)

theorem same_collapse_of_perm {as bs : List Group} (h : as.Perm bs) :
    (all as).collapse.same (all bs).collapse = true :=
  same_collapse_of_sameAll (sameAll_of_perm h)

/-! ## The form of alternatives -/

/-- A leaf, or a conjunction of leaves. -/
inductive IsAlternative : Group → Prop
  | leaf (l : PeerGroup) : IsAlternative (.leaf l)
  | all {items : List Group} : items ≠ [] → (∀ g ∈ items, ∃ l, g = .leaf l) →
      IsAlternative (.all items)

theorem IsAlternative.filled {g : Group} (h : g.IsAlternative) : g.Filled := by
  cases h with
  | leaf l => simp [Filled]
  | all hne hleaves =>
    refine filled_all.2 ⟨hne, fun g hg => ?_⟩
    obtain ⟨l, rfl⟩ := hleaves g hg
    simp [Filled]

/-- An alternative is merged from leaves. -/
theorem IsAlternative.leaf_of_mem_flatten {g x : Group} (h : g.IsAlternative)
    (hx : x ∈ g.flatten) : ∃ l, x = .leaf l := by
  cases h with
  | leaf l => exact ⟨l, by simpa [flatten] using hx⟩
  | all _ hleaves =>
    rw [flatten] at hx
    obtain ⟨g, hg, hx⟩ := mem_merged.1 (mem_of_mem_distinct hx)
    obtain ⟨l, rfl⟩ := hleaves g hg
    exact ⟨l, by simpa [flatten] using hx⟩

/-- Alternatives together, collapsed, are an alternative. -/
theorem isAlternative_collapse {items : List Group} (hne : items ≠ [])
    (h : ∀ g ∈ items, g.IsAlternative) : (all items).collapse.IsAlternative := by
  have hfilled : (all items).Filled := filled_all.2 ⟨hne, fun g hg => (h g hg).filled⟩
  refine .all (flatten_ne_nil hfilled) fun x hx => ?_
  rw [flatten] at hx
  obtain ⟨g, hg, hx⟩ := mem_merged.1 (mem_of_mem_distinct hx)
  exact (h g hg).leaf_of_mem_flatten hx

/-! ## Alternatives -/

theorem reduceEach_eq_map (groups : List Group) : reduceEach groups = groups.map reduce := by
  induction groups with
  | nil => rfl
  | cons g groups ih => rw [reduceEach, ih, List.map_cons]

theorem reduce_any_singleton (g : Group) : (any [g]).reduce = g.reduce := reduce.eq_3 g

theorem reduce_any_of_ne {groups : List Group} (h : ∀ g, groups ≠ [g]) :
    (any groups).reduce = distinct (groups.flatMap reduce) := by
  rw [reduce.eq_4 groups h, reduceEach_eq_map, List.flatMap_def]

theorem reduce_all (items : List Group) :
    (all items).reduce = conjunctions (items.map reduce) := by
  rw [reduce, reduceEach_eq_map]

/-- An alternative of a disjunction is one of a group of it. -/
theorem exists_of_mem_reduce_any {groups : List Group} {a : Group}
    (h : a ∈ (any groups).reduce) : ∃ g ∈ groups, a ∈ g.reduce := by
  by_cases hone : ∃ g, groups = [g]
  · obtain ⟨g, rfl⟩ := hone
    exact ⟨g, List.mem_singleton_self g, h⟩
  · rw [reduce_any_of_ne (not_exists.1 hone)] at h
    exact List.mem_flatMap.1 (mem_of_mem_distinct h)

/-- An alternative of a conjunction is collapsed from one alternative of each
    item. -/
theorem exists_of_mem_conjunctions {branches : List (List Group)} {a : Group}
    (h : a ∈ conjunctions branches) :
    ∃ tuple ∈ Product.tuples branches, a = (all tuple).collapse := by
  obtain ⟨tuple, htuple, rfl⟩ := List.mem_map.1 (mem_of_mem_distinct h)
  exact ⟨tuple, htuple, rfl⟩

theorem isAlternative_of_mem_tuple {branches : List (List Group)}
    (hbranches : ∀ branch ∈ branches, ∀ g ∈ branch, g.IsAlternative) {tuple : List Group}
    (h : tuple ∈ Product.tuples branches) : ∀ g ∈ tuple, g.IsAlternative := by
  intro g hg
  obtain ⟨branch, hbranch, hg⟩ := Product.exists_list_of_mem_tuple h hg
  exact hbranches branch hbranch g hg

/-- Reducing leaves leaves and conjunctions of leaves only. -/
theorem isAlternative_of_mem_reduce {g a : Group} (h : a ∈ g.reduce) : a.IsAlternative := by
  induction g generalizing a with
  | peer p =>
    obtain rfl : a = .leaf (.fixed [p]) := by simpa [reduce] using h
    exact .leaf _
  | leaf l =>
    obtain rfl : a = .leaf l := by simpa [reduce] using h
    exact .leaf _
  | any groups ih =>
    obtain ⟨g, hg, ha⟩ := exists_of_mem_reduce_any h
    exact ih g hg ha
  | all items ih =>
    rw [reduce_all] at h
    obtain ⟨tuple, htuple, rfl⟩ := exists_of_mem_conjunctions h
    refine isAlternative_collapse (Product.ne_nil_of_mem_tuples htuple)
      (isAlternative_of_mem_tuple (List.forall_mem_map.2 fun g hg a ha => ?_) htuple)
    exact ih g hg ha

/-- Conjoining alternatives distributes: some conjunction of one alternative of
    each branch holds iff every branch has an alternative that holds. -/
theorem exists_conjunctions_holds {branches : List (List Group)}
    (hbranches : ∀ branch ∈ branches, ∀ g ∈ branch, g.IsAlternative) :
    (∃ a ∈ conjunctions branches, a.Holds v) ↔
      branches ≠ [] ∧ ∀ branch ∈ branches, ∃ g ∈ branch, g.Holds v := by
  rw [conjunctions, exists_distinct_holds, ← Product.exists_tuple_iff]
  simp only [List.mem_map, exists_exists_and_eq_and]
  refine exists_congr fun tuple => and_congr_right fun htuple => ?_
  have hne := Product.ne_nil_of_mem_tuples htuple
  -- A tuple of alternatives is never empty, so collapsing it keeps its meaning.
  have hfilled : (all tuple).Filled :=
    filled_all.2 ⟨hne, fun g hg => (isAlternative_of_mem_tuple hbranches htuple g hg).filled⟩
  rw [holds_collapse hfilled, holds_all, and_iff_right hne]

/-- A group holds iff one of its alternatives does. -/
theorem exists_reduce_holds (g : Group) : (∃ a ∈ g.reduce, a.Holds v) ↔ g.Holds v := by
  induction g with
  | peer p => simp [reduce, v.leaf_single]
  | leaf l => simp [reduce]
  | any groups ih =>
    have hgroups : (∃ a ∈ (any groups).reduce, a.Holds v) ↔
        ∃ a ∈ groups.flatMap reduce, a.Holds v := by
      -- A disjunction of one group is that group, and nothing is left out of it.
      by_cases hone : ∃ g, groups = [g]
      · obtain ⟨g, rfl⟩ := hone
        simp [reduce_any_singleton]
      · rw [reduce_any_of_ne (not_exists.1 hone), exists_distinct_holds]
    rw [hgroups, holds_any]
    constructor
    · rintro ⟨a, ha, h⟩
      obtain ⟨g, hg, ha⟩ := List.mem_flatMap.1 ha
      exact ⟨g, hg, (ih g hg).1 ⟨a, ha, h⟩⟩
    · rintro ⟨g, hg, h⟩
      obtain ⟨a, ha, h⟩ := (ih g hg).2 h
      exact ⟨a, List.mem_flatMap.2 ⟨g, hg, ha⟩, h⟩
  | all items ih =>
    -- Collapsing keeps the meaning only of filled groups, which alternatives are.
    have hbranches : ∀ branch ∈ items.map reduce, ∀ a ∈ branch, a.IsAlternative :=
      List.forall_mem_map.2 fun _ _ _ ha => isAlternative_of_mem_reduce ha
    rw [reduce_all, exists_conjunctions_holds hbranches, holds_all]
    refine and_congr (by simp) ?_
    rw [List.forall_mem_map]
    exact forall₂_congr ih

/-- No two alternatives of a group are equal. -/
theorem pairwise_reduce (g : Group) : g.reduce.Pairwise fun a b => a.same b = false := by
  induction g with
  | peer p => simp [reduce]
  | leaf l => simp [reduce]
  | any groups ih =>
    by_cases hone : ∃ g, groups = [g]
    · obtain ⟨g, rfl⟩ := hone
      exact ih g List.mem_cons_self
    · rw [reduce_any_of_ne (not_exists.1 hone)]
      exact pairwise_distinct _
  | all items ih =>
    rw [reduce_all]
    exact pairwise_distinct _

theorem nodup_reduce (g : Group) : g.reduce.Nodup :=
  (pairwise_reduce g).imp fun {a b} h hab => by simp [hab, same_refl] at h

/-- The alternatives of a conjunction are conjunctions. -/
theorem exists_all_of_mem_reduce_all {items : List Group} {a : Group} (h : a ∈ (all items).reduce) :
    ∃ leaves, a = .all leaves := by
  rw [reduce_all] at h
  obtain ⟨tuple, -, rfl⟩ := exists_of_mem_conjunctions h
  exact ⟨_, rfl⟩

/-! ## Numbers of groups -/

/-- Choosing a number of groups succeeds iff there are that many, and at least one is
    asked for. -/
theorem atLeast_eq_ok_iff {threshold : Int32} {groups chosen : List Group} :
    atLeast threshold groups = .ok chosen ↔
      (0 < threshold.toInt ∧ threshold.toInt ≤ groups.length) ∧
      chosen = (Product.choices groups threshold.toInt.toNat).map all := by
  rw [atLeast]
  split
  · rename_i h
    refine iff_of_false (by simp) fun ⟨hrange, _⟩ => ?_
    omega
  · rename_i h
    rw [and_iff_right (by omega), Except.ok.injEq, eq_comm]

/-- It fails iff there are not that many groups, or none is asked for, and says so. -/
theorem atLeast_eq_error_iff {threshold : Int32} {groups : List Group} {failure : Failure} :
    atLeast threshold groups = .error failure ↔
      ¬(0 < threshold.toInt ∧ threshold.toInt ≤ groups.length) ∧
      failure = .badThreshold threshold groups.length := by
  rw [atLeast]
  split
  · rw [and_iff_right (by omega), Except.error.injEq, eq_comm]
  · refine iff_of_false (by simp) fun ⟨hrange, _⟩ => ?_
    omega

open Classical in
/-- A number of groups holds iff at least that many of them do. -/
theorem exists_atLeast_holds {threshold : Int32} {groups chosen : List Group}
    (h : atLeast threshold groups = .ok chosen) :
    (∃ g ∈ chosen, g.Holds v) ↔ threshold.toInt ≤ groups.countP (·.Holds v) := by
  obtain ⟨⟨hpos, -⟩, rfl⟩ := atLeast_eq_ok_iff.1 h
  have hchoice : (∃ choice ∈ Product.choices groups threshold.toInt.toNat,
      choice ≠ [] ∧ ∀ g ∈ choice, g.Holds v) ↔
        threshold.toInt.toNat ≤ groups.countP (·.Holds v) :=
    Product.exists_choice_iff (by omega)
  simp only [List.mem_map, exists_exists_and_eq_and, holds_all, hchoice]
  omega

end Endorsement.Group
