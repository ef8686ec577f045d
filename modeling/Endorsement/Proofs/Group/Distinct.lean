import Endorsement.Proofs.Group.Equality
import Mathlib.Data.List.Forall2
import Mathlib.Data.List.Induction

/-!
# Groups without repetition

A list is freed of repetitions from left to right: a group is left out if an
equal one was kept before it. Since equality is an equivalence, that is the same
as leaving out every group that equals an earlier one, kept or not.

* `mem_of_mem_distinct`, `exists_same_of_mem`, `pairwise_distinct`: what is left
  was there before, has an equal of everything that was there, and holds no two
  that are equal;
* `covers_distinct`: it has an equal of exactly the groups that the list has an
  equal of;
* `sameAll_distinct`: lists that have equals of the same groups are equal
  without repetition;
* `Rearranged`, `sameAll_iff_rearranged`: without repetition, equality as sets is
  equality up to order;
* `distinct_append`, `distinct_flatMap_distinct`: repetitions may be left out of
  parts first;
* `distinct_eq_self`: where nothing is repeated, nothing is left out;
* `distinct_map_of_same`: groups made from keys;
* `firsts`, `distinct_eq_firsts`: the groups that equal no earlier one.
-/

namespace Endorsement.Group

/-! ## Equals of a group -/

theorem covers_congr {a b : Group} (h : a.same b = true) (groups : List Group) :
    covers groups a = covers groups b := by
  rw [Bool.eq_iff_iff, covers_iff, covers_iff]
  constructor
  · rintro ⟨g, hg, hga⟩
    exact ⟨g, hg, same_trans hga h⟩
  · rintro ⟨g, hg, hgb⟩
    exact ⟨g, hg, same_trans hgb (same_symm h)⟩

theorem covers_append (as bs : List Group) (g : Group) :
    covers (as ++ bs) g = (covers as g || covers bs g) := by
  induction as with
  | nil => rfl
  | cons a as ih => rw [List.cons_append, covers, covers, ih, Bool.or_assoc]

theorem covers_of_mem {groups : List Group} {g : Group} (h : g ∈ groups) :
    covers groups g = true :=
  covers_iff.2 ⟨g, h, same_refl g⟩

/-! ## Lists of equal groups -/

theorem sameAll_of_forall₂ {as bs : List Group}
    (h : List.Forall₂ (fun a b => a.same b = true) as bs) : sameAll as bs = true := by
  refine sameAll_iff.2 ⟨h.length_eq, ?_, ?_⟩
  · induction h with
    | nil => simp
    | cons hab _ ih => simp_all
  · induction h with
    | nil => simp
    | cons hab _ ih => simp_all

theorem sameAll_of_perm {as bs : List Group} (h : as.Perm bs) : sameAll as bs = true :=
  sameAll_iff.2 ⟨h.length_eq, fun a ha => ⟨a, h.mem_iff.1 ha, same_refl a⟩,
    fun b hb => ⟨b, h.mem_iff.2 hb, same_refl b⟩⟩

/-! ## What is left -/

theorem distinct_concat (groups : List Group) (g : Group) :
    distinct (groups ++ [g]) = insertNew (distinct groups) g := by
  rw [distinct, List.foldl_append, ← distinct, List.foldl_cons, List.foldl_nil]

theorem mem_of_mem_distinct {groups : List Group} {g : Group} (h : g ∈ distinct groups) :
    g ∈ groups := by
  induction groups using List.reverseRecOn with
  | nil => exact h
  | append_singleton groups k ih =>
    rw [distinct_concat, insertNew] at h
    split at h
    · exact List.mem_append_left _ (ih h)
    · exact (List.mem_append.1 h).elim (fun h => List.mem_append_left _ (ih h))
        (List.mem_append_right _)

/-- Of every group in a list, an equal one is kept. -/
theorem exists_same_of_mem {groups : List Group} {g : Group} (h : g ∈ groups) :
    ∃ g' ∈ distinct groups, same g' g = true := by
  induction groups using List.reverseRecOn with
  | nil => exact absurd h List.not_mem_nil
  | append_singleton groups k ih =>
    rw [distinct_concat, insertNew]
    rcases List.mem_append.1 h with h | h
    · obtain ⟨g', hg', hsame⟩ := ih h
      refine ⟨g', ?_, hsame⟩
      split
      · exact hg'
      · exact List.mem_append_left _ hg'
    · obtain rfl := List.mem_singleton.1 h
      split
      · rename_i hcovers
        exact covers_iff.1 hcovers
      · exact ⟨g, by simp, same_refl g⟩

theorem covers_distinct (groups : List Group) : covers (distinct groups) = covers groups := by
  funext g
  rw [Bool.eq_iff_iff, covers_iff, covers_iff]
  constructor
  · rintro ⟨h, hh, hsame⟩
    exact ⟨h, mem_of_mem_distinct hh, hsame⟩
  · rintro ⟨h, hh, hsame⟩
    obtain ⟨h', hh', hsame'⟩ := exists_same_of_mem hh
    exact ⟨h', hh', same_trans hsame' hsame⟩

theorem distinct_ne_nil {groups : List Group} (h : groups ≠ []) : distinct groups ≠ [] := by
  obtain ⟨g, hg⟩ := List.exists_mem_of_ne_nil groups h
  obtain ⟨g', hg', -⟩ := exists_same_of_mem hg
  exact List.ne_nil_of_mem hg'

/-- No two groups that are left are equal. -/
theorem pairwise_distinct (groups : List Group) :
    (distinct groups).Pairwise fun a b => a.same b = false := by
  induction groups using List.reverseRecOn with
  | nil => exact .nil
  | append_singleton groups g ih =>
    rw [distinct_concat, insertNew]
    split
    · exact ih
    · rename_i hnew
      rw [covers_iff] at hnew
      push Not at hnew
      simpa [List.pairwise_append, ih] using hnew

/-! ## Lists with the same groups -/

/-- Groups up to equality. -/
def setoid : Setoid Group := ⟨fun a b => a.same b = true, same_refl, same_symm, same_trans⟩

theorem nodup_map_mk {as : List Group} (h : as.Pairwise fun a b => a.same b = false) :
    (as.map (Quotient.mk setoid)).Nodup := by
  rw [List.Nodup, List.pairwise_map]
  exact h.imp fun {a b} hab heq => by simp [show a.same b = true from Quotient.exact heq] at hab

theorem map_mk_subset {as bs : List Group} (h : ∀ a ∈ as, ∃ b ∈ bs, a.same b = true) :
    as.map (Quotient.mk setoid) ⊆ bs.map (Quotient.mk setoid) := by
  intro c hc
  obtain ⟨a, ha, rfl⟩ := List.mem_map.1 hc
  obtain ⟨b, hb, hsame⟩ := h a ha
  exact List.mem_map.2 ⟨b, hb, (Quotient.sound hsame).symm⟩

/-- A list without repetition is no longer than one that has an equal of each of
    its groups. -/
theorem length_le_of_covers {as bs : List Group} (h : as.Pairwise fun a b => a.same b = false)
    (hcovers : ∀ a ∈ as, covers bs a = true) : as.length ≤ bs.length := by
  have hsubset : as.map (Quotient.mk setoid) ⊆ bs.map (Quotient.mk setoid) :=
    map_mk_subset fun a ha => by
      obtain ⟨b, hb, hsame⟩ := covers_iff.1 (hcovers a ha)
      exact ⟨b, hb, same_symm hsame⟩
  simpa using (nodup_map_mk h).length_le_of_subset hsubset

/-- Lists without repetition that have equals of the same groups are equal. -/
theorem sameAll_of_covers_eq {as bs : List Group}
    (has : as.Pairwise fun a b => a.same b = false)
    (hbs : bs.Pairwise fun a b => a.same b = false) (h : covers as = covers bs) :
    sameAll as bs = true := by
  have hab : ∀ a ∈ as, covers bs a = true := fun a ha => h ▸ covers_of_mem ha
  have hba : ∀ b ∈ bs, covers as b = true := fun b hb => h ▸ covers_of_mem hb
  refine sameAll_iff.2 ⟨Nat.le_antisymm (length_le_of_covers has hab) (length_le_of_covers hbs hba),
    fun a ha => ?_, fun b hb => covers_iff.1 (hba b hb)⟩
  obtain ⟨b, hb, hsame⟩ := covers_iff.1 (hab a ha)
  exact ⟨b, hb, same_symm hsame⟩

theorem sameAll_distinct {as bs : List Group} (h : covers as = covers bs) :
    sameAll (distinct as) (distinct bs) = true :=
  sameAll_of_covers_eq (pairwise_distinct as) (pairwise_distinct bs)
    (by rw [covers_distinct, covers_distinct, h])

/-! ### Equality up to order -/

/-- Lists that differ in the order of their groups, and in nothing else up to
    equality of groups. -/
def Rearranged (as bs : List Group) : Prop :=
  ∃ cs, List.Forall₂ (fun a c => a.same c = true) as cs ∧ cs.Perm bs

theorem Rearranged.sameAll {as bs : List Group} (h : Rearranged as bs) :
    Group.sameAll as bs = true := by
  obtain ⟨cs, hsame, hperm⟩ := h
  exact sameAll_trans (fun _ _ _ _ => same_trans) (sameAll_of_forall₂ hsame) (sameAll_of_perm hperm)

/-- Without repetition, lists are equal as sets iff they are equal up to order.
    Equal lists are equally long, so the other one has no repetition either. -/
theorem sameAll_iff_rearranged {as bs : List Group}
    (h : as.Pairwise fun a b => a.same b = false) :
    sameAll as bs = true ↔ Rearranged as bs := by
  refine ⟨fun hsame => ?_, Rearranged.sameAll⟩
  obtain ⟨hlen, hab, -⟩ := sameAll_iff.1 hsame
  -- Up to equality of groups, `as` has no repetition and is as long as `bs`, which
  -- contains it.
  have hperm : (as.map (Quotient.mk setoid)).Perm (bs.map (Quotient.mk setoid)) :=
    (List.subperm_of_subset (nodup_map_mk h) (map_mk_subset hab)).perm_of_length_le
      (by simp [hlen])
  have hbs : List.Forall₂ (fun c b => c = Quotient.mk setoid b) (bs.map (Quotient.mk setoid)) bs :=
    List.forall₂_map_left_iff.2 (List.forall₂_same.2 fun _ _ => rfl)
  obtain ⟨cs, hcs, hperm⟩ := List.perm_comp_forall₂ hperm hbs
  exact ⟨cs, (List.forall₂_map_left_iff.1 hcs).imp fun _ _ => Quotient.exact, hperm⟩

/-! ## Leaving repetitions out of parts -/

theorem distinct_append (as bs : List Group) :
    distinct (as ++ bs) = distinct as ++ (distinct bs).filter (fun g => !covers as g) := by
  induction bs using List.reverseRecOn with
  | nil => simp [distinct]
  | append_singleton bs g ih =>
    rw [← List.append_assoc, distinct_concat, distinct_concat, insertNew, insertNew,
      covers_distinct, covers_distinct, covers_append, ih]
    cases ha : covers as g <;> cases covers bs g <;> simp [ha]

theorem distinct_append_congr {as as' bs bs' : List Group} (ha : distinct as = distinct as')
    (hb : distinct bs = distinct bs') : distinct (as ++ bs) = distinct (as' ++ bs') := by
  have hcovers : covers as = covers as' := by rw [← covers_distinct, ha, covers_distinct]
  rw [distinct_append, distinct_append, ha, hb, hcovers]

theorem distinct_append_of_covers {as bs : List Group} (h : ∀ b ∈ bs, covers as b = true) :
    distinct (as ++ bs) = distinct as := by
  have hnone : (distinct bs).filter (fun g => !covers as g) = [] :=
    List.filter_eq_nil_iff.2 fun b hb => by simp [h b (mem_of_mem_distinct hb)]
  rw [distinct_append, hnone, List.append_nil]

/-- Where nothing is repeated, nothing is left out. -/
theorem distinct_eq_self {groups : List Group}
    (h : groups.Pairwise fun a b => a.same b = false) : distinct groups = groups := by
  induction groups using List.reverseRecOn with
  | nil => rfl
  | append_singleton groups g ih =>
    rw [List.pairwise_append] at h
    obtain ⟨hgroups, -, hg⟩ := h
    have hnew : covers groups g = false := by
      rw [Bool.eq_false_iff, Ne, covers_iff]
      rintro ⟨a, ha, hsame⟩
      simp [hg a ha g List.mem_cons_self] at hsame
    rw [distinct_concat, ih hgroups, insertNew, hnew]
    rfl

theorem distinct_distinct (groups : List Group) : distinct (distinct groups) = distinct groups :=
  distinct_eq_self (pairwise_distinct groups)

variable {α : Type}

/-- Groups made from keys are equal only where the keys are: what is left is made
    from the keys, each taken once. -/
theorem distinct_map_of_same [BEq α] [LawfulBEq α] {f : α → Group}
    (h : ∀ a b, (f a).same (f b) = true ↔ a = b) (keys : List α) :
    distinct (keys.map f) = keys.eraseDups.map f := by
  induction keys using List.reverseRecOn with
  | nil => rfl
  | append_singleton keys key ih =>
    have hcovers : covers (keys.map f) (f key) = true ↔ key ∈ keys := by
      rw [covers_iff]
      simp [h]
    rw [List.map_append, List.map_singleton, distinct_concat, insertNew, covers_distinct, ih,
      List.eraseDups_append, List.map_append]
    by_cases hkey : key ∈ keys
    · simp [hcovers, List.removeAll, hkey]
    · simp [hcovers, List.removeAll, List.eraseDups_cons, hkey]

theorem distinct_flatMap_congr {f f' : α → List Group} {items : List α}
    (h : ∀ a ∈ items, distinct (f a) = distinct (f' a)) :
    distinct (items.flatMap f) = distinct (items.flatMap f') := by
  induction items with
  | nil => rfl
  | cons a items ih =>
    rw [List.forall_mem_cons] at h
    rw [List.flatMap_cons, List.flatMap_cons]
    exact distinct_append_congr h.1 (ih h.2)

/-- What equal groups give is given once, so repetitions among them can be left
    out before. -/
theorem distinct_flatMap_distinct {f : Group → List Group}
    (h : ∀ a b, a.same b = true → ∀ x ∈ f b, covers (f a) x = true) (groups : List Group) :
    distinct ((distinct groups).flatMap f) = distinct (groups.flatMap f) := by
  induction groups using List.reverseRecOn with
  | nil => rfl
  | append_singleton groups g ih =>
    rw [distinct_concat, insertNew, covers_distinct, List.flatMap_append, List.flatMap_singleton]
    split
    · -- An earlier group equals `g` and gives equals of all that `g` gives.
      rename_i hcovers
      obtain ⟨k, hk, hsame⟩ := covers_iff.1 hcovers
      rw [ih, distinct_append_of_covers]
      intro x hx
      obtain ⟨y, hy, hyx⟩ := covers_iff.1 (h k g hsame x hx)
      exact covers_iff.2 ⟨y, List.mem_flatMap.2 ⟨k, hk, hy⟩, hyx⟩
    · rw [List.flatMap_append, List.flatMap_singleton]
      exact distinct_append_congr ih rfl

/-! ## Groups that equal no earlier one -/

/-- The groups of a list that equal neither one of `earlier` nor one before them
    in the list. -/
def firstsAfter (earlier : List Group) : List Group → List Group
  | [] => []
  | g :: rest =>
    if covers earlier g then firstsAfter (earlier ++ [g]) rest
    else g :: firstsAfter (earlier ++ [g]) rest

/-- The groups that equal no earlier one. -/
def firsts : List Group → List Group :=
  firstsAfter []

/-- To go on from the groups found so far adds those that equal no earlier one, if the
    groups found equal the same groups as all the earlier ones. -/
theorem foldl_insertNew_eq_append {found earlier : List Group} (h : covers found = covers earlier)
    (groups : List Group) :
    groups.foldl insertNew found = found ++ firstsAfter earlier groups := by
  induction groups generalizing found earlier with
  | nil => simp [firstsAfter]
  | cons g groups ih =>
    rw [List.foldl_cons, insertNew, firstsAfter, h]
    split
    · -- A group that is left out has an equal among those found already.
      rename_i hcovers
      refine ih (funext fun x => ?_)
      rw [covers_append, h]
      by_cases hx : g.same x = true
      · rw [← covers_congr hx, hcovers, Bool.true_or]
      · simp [covers, hx]
    · have hboth : covers (found ++ [g]) = covers (earlier ++ [g]) :=
        funext fun x => by rw [covers_append, covers_append, h]
      rw [ih hboth, List.append_assoc, List.singleton_append]

/-- Leaving out what equals a group kept before is leaving out what equals an
    earlier group. -/
theorem distinct_eq_firsts (groups : List Group) : distinct groups = firsts groups := by
  rw [distinct, foldl_insertNew_eq_append rfl, List.nil_append, firsts]

end Endorsement.Group
