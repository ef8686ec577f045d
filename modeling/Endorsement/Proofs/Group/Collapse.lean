import Endorsement.Proofs.Group.Alternatives

/-!
# Collapsed conjunctions

A conjunction consists of its items and of whatever the conjunctions among them
consist of, at any depth; disjunctions and leaves are not looked into. Collapsing
keeps what it consists of that is no conjunction, each once.

* `Reaches`: what a conjunction consists of;
* `isAll_of_mem_flatten`, `reaches_of_mem_flatten`: nothing else is kept;
* `covers_flatten_of_reaches`: nothing is lost, up to equality;
* `flatten_all_eq_self`: a conjunction that is flat and without repetition is
  kept as it is;
* `filled_of_not_reaches`: which groups are filled, by what they consist of;
* `collapse_flattens`: what collapsing gives, and when it keeps the meaning.
-/

namespace Endorsement.Group

/-! ## What conjunctions consist of -/

/-- What a conjunction consists of: its items, and what the conjunctions among
    them consist of. -/
inductive Reaches : Group → Group → Prop
  | item {items : List Group} {x : Group} : x ∈ items → Reaches (.all items) x
  | within {items inner : List Group} {x : Group} :
      .all inner ∈ items → Reaches (.all inner) x → Reaches (.all items) x

theorem reaches_all_iff {items : List Group} {x : Group} :
    (all items).Reaches x ↔ ∃ g ∈ items, x = g ∨ g.Reaches x := by
  constructor
  · intro h
    cases h with
    | item hx => exact ⟨x, hx, .inl rfl⟩
    | within hinner hx => exact ⟨_, hinner, .inr hx⟩
  · rintro ⟨g, hg, rfl | hx⟩
    · exact .item hg
    · -- Only a conjunction consists of anything.
      cases hx with
      | item hx => exact .within hg (.item hx)
      | within hinner hx => exact .within hg (.within hinner hx)

@[simp] theorem not_reaches_leaf {l : PeerGroup} {x : Group} : ¬(leaf l).Reaches x := nofun

@[simp] theorem not_reaches_any {groups : List Group} {x : Group} : ¬(any groups).Reaches x := nofun

/-! ## What is kept -/

theorem isAll_of_mem_flatten {g x : Group} (h : x ∈ g.flatten) : x.isAll = false := by
  induction g with
  | all items ih =>
    rw [flatten] at h
    obtain ⟨g, hg, hx⟩ := mem_merged.1 (mem_of_mem_distinct h)
    exact ih g hg hx
  | _ =>
    rw [flatten_of_not_isAll rfl, List.mem_singleton] at h
    rw [h]
    rfl

theorem reaches_of_mem_flatten {g x : Group} (hall : g.isAll = true) (h : x ∈ g.flatten) :
    g.Reaches x := by
  induction g with
  | all items ih =>
    rw [flatten] at h
    obtain ⟨g, hg, hx⟩ := mem_merged.1 (mem_of_mem_distinct h)
    refine reaches_all_iff.2 ⟨g, hg, ?_⟩
    cases hg' : g.isAll with
    | true => exact .inr (ih g hg hg' hx)
    | false =>
      rw [flatten_of_not_isAll hg', List.mem_singleton] at hx
      exact .inl hx
  | _ => cases hall

theorem covers_flatten_of_reaches {g x : Group} (h : g.Reaches x) (hx : x.isAll = false) :
    covers g.flatten x = true := by
  induction h with
  | @item items x hmem =>
    refine covers_flatten_all.2 ⟨x, hmem, ?_⟩
    rw [flatten_of_not_isAll hx]
    exact covers_of_mem List.mem_cons_self
  | within hinner _ ih => exact covers_flatten_all.2 ⟨_, hinner, ih hx⟩

/-! ## Flat conjunctions -/

/-- A conjunction that has no conjunction among its items, and no two that are
    equal, is merged from its items in their order. -/
theorem flatten_all_eq_self {items : List Group} (hflat : ∀ g ∈ items, g.isAll = false)
    (hpairwise : items.Pairwise fun a b => a.same b = false) : (all items).flatten = items := by
  have hitems : items.filter (fun g => !g.isAll) = items :=
    List.filter_eq_self.2 fun g hg => by rw [hflat g hg]; rfl
  have hnested : flattenNested items = [] := by
    refine List.eq_nil_iff_forall_not_mem.2 fun x hx => ?_
    obtain ⟨g, hg, hall, -⟩ := mem_flattenNested.1 hx
    cases (hflat g hg).symm.trans hall
  rw [flatten, hitems, hnested, List.append_nil, distinct_eq_self hpairwise]

theorem pairwise_flatten_all (items : List Group) :
    (all items).flatten.Pairwise fun a b => a.same b = false := by
  rw [flatten]
  exact pairwise_distinct _

theorem collapse_of_not_isAll {g : Group} (h : g.isAll = false) : g.collapse = g := by
  rw [collapse, h]
  rfl

theorem collapse_collapse (g : Group) : g.collapse.collapse = g.collapse := by
  cases g with
  | all items =>
    rw [collapse_all, collapse_all,
      flatten_all_eq_self (fun _ => isAll_of_mem_flatten) (pairwise_flatten_all items)]
  | _ => rfl

/-! ## Meaning -/

/-- A group other than the empty conjunction is filled if it consists of no empty
    conjunction. -/
theorem filled_of_not_reaches {g : Group} (hne : g ≠ .all []) (h : ¬g.Reaches (.all [])) :
    g.Filled := by
  induction g with
  | all items ih =>
    refine filled_all.2 ⟨fun hnil => hne (congrArg all hnil), fun g hg => ih g hg ?_ fun hx => ?_⟩
    · rintro rfl
      exact h (.item hg)
    · exact h (reaches_all_iff.2 ⟨g, hg, .inr hx⟩)
  | _ => simp [Filled]

/-- The empty conjunction is kept as it is, though it is not filled. -/
theorem holds_collapse_of_not_reaches {v : Valuation} {g : Group} (h : ¬g.Reaches (.all [])) :
    g.collapse.Holds v ↔ g.Holds v := by
  by_cases hne : g = .all []
  · rw [hne]
    rfl
  · exact holds_collapse (filled_of_not_reaches hne h)

/-! ## Collapsing -/

/-- Collapsing leaves all groups but conjunctions as they are. Of a conjunction it
    gives one without conjunctions among its items, no two of which are equal: they
    are among those that the conjunction consists of, and each of these that is no
    conjunction has an equal there. What is collapsed stays so to the letter. If no
    conjunction on the way is empty, the same sets of peers satisfy the group before
    and after. -/
theorem collapse_flattens (g : Group) :
    (g.isAll = false → g.collapse = g) ∧
    (g.isAll = true → ∃ flat, g.collapse = .all flat ∧
      (∀ x ∈ flat, x.isAll = false ∧ g.Reaches x) ∧
      (∀ x, g.Reaches x → x.isAll = false → covers flat x = true) ∧
      flat.Pairwise fun a b => a.same b = false ∧ b.same a = false) ∧
    g.collapse.collapse = g.collapse ∧
    (¬g.Reaches (.all []) → ∀ (lookup : String → List Peer) (S : Set Peer),
      g.collapse.Holds (.under lookup S) ↔ g.Holds (.under lookup S)) := by
  refine ⟨collapse_of_not_isAll, fun hall => ?_, collapse_collapse g,
    fun h lookup S => holds_collapse_of_not_reaches h⟩
  cases g with
  | all items =>
    refine ⟨(all items).flatten, collapse_all items,
      fun x hx => ⟨isAll_of_mem_flatten hx, reaches_of_mem_flatten hall hx⟩,
      fun x hx => covers_flatten_of_reaches hx,
      (pairwise_flatten_all items).imp fun {a b} hab => ?_⟩
    exact ⟨hab, Bool.eq_false_iff.2 fun hba => Bool.eq_false_iff.1 hab (same_symm hba)⟩
  | _ => cases hall

/-- One of two organisations, the second written as a conjunction. -/
def aOrB : Group := any [leaf (.msp "A"), all [leaf (.msp "B")]]

/-- The same in the other order. -/
def bOrA : Group := any [all [leaf (.msp "B")], leaf (.msp "A")]

/-- A conjunction of three layers, with repetitions within and between them. -/
def layered : Group :=
  all [leaf (.msp "A"), all [aOrB, leaf (.msp "A"), leaf (.msp "B")], leaf (.msp "A"),
    all [leaf (.msp "B"), all [bOrA, leaf (.msp "C")]]]

/-- It collapses to one layer, which means the same. -/
theorem layered_flattened :
    aOrB.isAll = false ∧ aOrB.collapse = aOrB ∧
    layered.isAll = true ∧ layered.Reaches bOrA ∧ bOrA.isAll = false ∧
    covers [leaf (.msp "A"), aOrB, leaf (.msp "B"), leaf (.msp "C")] bOrA = true ∧
    ¬layered.Reaches (.all []) ∧
    ∀ (lookup : String → List Peer) (S : Set Peer),
      (all [leaf (.msp "A"), aOrB, leaf (.msp "B"), leaf (.msp "C")]).Holds (.under lookup S) ↔
        layered.Holds (.under lookup S) := by
  obtain ⟨hother, -, -, -⟩ := collapse_flattens aOrB
  obtain ⟨-, hall, -, hmeaning⟩ := collapse_flattens layered
  have hcollapse : layered.collapse =
      all [leaf (.msp "A"), aOrB, leaf (.msp "B"), leaf (.msp "C")] := by cbv
  obtain ⟨flat, hflat, -, hcovers, -⟩ := hall rfl
  obtain rfl := all.inj (hflat.symm.trans hcollapse)
  have hreaches : layered.Reaches bOrA := by simp [layered, reaches_all_iff]
  have hfilled : ¬layered.Reaches (.all []) := by
    simp [layered, reaches_all_iff, aOrB, bOrA]
  exact ⟨rfl, hother rfl, rfl, hreaches, rfl, hcovers bOrA hreaches rfl, hfilled,
    hcollapse ▸ hmeaning hfilled⟩

end Endorsement.Group
