import Endorsement.Proofs.Product
import Mathlib.Data.List.Sort
import Mathlib.Data.Nat.Choose.Basic

/-!
# Choices, position by position

To choose some of the items of a list is to select their positions, so that equal
items count each on its own.

* `choicesByFirst`: the choices by their first item, from one end of the list to the other;
* `choicesByFirst_eq`: these are the same choices, in the same order;
* `AreSelections`: all selections of a number of positions, in lexicographic order;
* `areSelections_choices_range`: the choices among positions are their selections;
* `AreSelections.exists_iff`: what holds at enough positions holds at all positions of
  some selection;
* `ReadAt`: lists that have the items at some selections, one for one;
* `readAt_choices`: the choices of a list are read at the selections of its
  positions.
-/

namespace Endorsement.Product

variable {α β : Type} {size length : Nat} {items : List α}

/-! ## By the first item -/

/-- The choices that have one of the items first and then a further choice among the
    items behind it. Once fewer than `size` items are behind the first, there are no
    more. -/
def beginning (size : Nat) (further : List α → List (List α)) : List α → List (List α)
  | [] => []
  | first :: rest =>
    if rest.length < size then []
    else (further rest).map (first :: ·) ++ beginning size further rest

/-- Every choice of `size` items of a list, at least one, by their first items. -/
def choicesByFirst : (size : Nat) → List α → List (List α)
  | 0, _ => []
  | 1, items => if items.length < 1 then [] else items.map ([·])
  | size + 2, items =>
    if items.length < size + 2 then [] else beginning (size + 1) (choicesByFirst (size + 1)) items

theorem choices_eq_nil (h : size = 0 ∨ items.length < size) : choices items size = [] :=
  if_pos (by simpa using h)

theorem choices_eq_sublists (hpos : 0 < size) (hsize : size ≤ items.length) :
    choices items size = sublists size items := by
  refine if_neg ?_
  simp only [Bool.or_eq_true, decide_eq_true_eq]
  omega

theorem beginning_eq_sublists {further : List α → List (List α)}
    (h : ∀ rest, size ≤ rest.length → further rest = sublists size rest) (items : List α) :
    beginning size further items = sublists (size + 1) items := by
  induction items with
  | nil => rfl
  | cons first rest ih =>
    rw [beginning, sublists, ih]
    split
    · rfl
    · rw [h rest (by omega)]

/-- The choices by their first items are the choices. -/
theorem choicesByFirst_eq : ∀ (size : Nat) (items : List α),
    choicesByFirst size items = choices items size
  | 0, _ => rfl
  | 1, items => by
    rw [choices_one]
    cases items <;> rfl
  | size + 2, items => by
    rw [choicesByFirst]
    split
    · rename_i hshort
      exact (choices_eq_nil (.inr hshort)).symm
    · rw [choices_eq_sublists (Nat.succ_pos _) (by omega)]
      refine beginning_eq_sublists (fun rest hrest => ?_) items
      rw [choicesByFirst_eq (size + 1) rest, choices_eq_sublists (Nat.succ_pos _) hrest]

/-! ## By position -/

/-- Some lists of positions are all selections of `size` of the first `length`
    positions: each in increasing order, and all of them in lexicographic order, so
    that no selection comes twice. -/
structure AreSelections (length size : Nat) (selections : List (List Nat)) : Prop where
  mem_iff : ∀ positions, positions ∈ selections ↔
    positions.Pairwise (· < ·) ∧ positions.length = size ∧ ∀ i ∈ positions, i < length
  lexicographic : selections.Pairwise (· < ·)

/-- Some lists have, one for one, the items at some selections of positions. -/
def ReadAt (items : List α) (selections : List (List Nat)) (choices : List (List α)) : Prop :=
  choices.map (·.map some) = selections.map (·.map (items[·]?))

/-- Positions in increasing order are a part of all positions. -/
theorem sublist_range_iff {positions : List Nat} : positions.Sublist (List.range length) ↔
    positions.Pairwise (· < ·) ∧ ∀ i ∈ positions, i < length := by
  constructor
  · intro h
    exact ⟨List.pairwise_lt_range.sublist h, fun i hi => List.mem_range.1 (h.subset hi)⟩
  · rintro ⟨hlt, hwithin⟩
    have hsubset : positions ⊆ List.range length := fun i hi => List.mem_range.2 (hwithin i hi)
    exact List.sublist_of_subperm_of_pairwise
      (List.subperm_of_subset (hlt.imp Nat.ne_of_lt) hsubset) (hlt.imp Nat.le_of_lt)
      (List.pairwise_lt_range.imp Nat.le_of_lt)

theorem mem_sublists_range {positions : List Nat} :
    positions ∈ sublists size (List.range length) ↔
      positions.Pairwise (· < ·) ∧ positions.length = size ∧ ∀ i ∈ positions, i < length := by
  rw [mem_sublists, sublist_range_iff, and_assoc, and_comm (b := positions.length = size)]

/-- The choices of increasing numbers are in lexicographic order. -/
theorem pairwise_sublists {numbers : List Nat} (h : numbers.Pairwise (· < ·)) (size : Nat) :
    (sublists size numbers).Pairwise (· < ·) := by
  induction numbers generalizing size with
  | nil => cases size <;> simp [sublists]
  | cons n rest ih =>
    cases size with
    | zero => exact List.pairwise_singleton _ _
    | succ size =>
      rw [List.pairwise_cons] at h
      rw [sublists]
      split
      · exact .nil
      · rw [List.pairwise_append, List.pairwise_map]
        refine ⟨(ih h.2 size).imp List.Lex.cons, ih h.2 (size + 1), fun x hx y hy => ?_⟩
        -- What has the first number comes before what has only greater ones.
        obtain ⟨tail, -, rfl⟩ := List.mem_map.1 hx
        obtain ⟨hsub, hlen⟩ := mem_sublists.1 hy
        obtain ⟨m, later, rfl⟩ := List.exists_cons_of_length_eq_add_one hlen
        exact .rel (h.1 m (hsub.subset List.mem_cons_self))

/-- The choices among the first positions are their selections. -/
theorem areSelections_choices_range (hpos : 0 < size) (hsize : size ≤ length) :
    AreSelections length size (choices (List.range length) size) where
  mem_iff positions := by
    rw [choices_eq_sublists hpos (by rwa [List.length_range]), mem_sublists_range]
  lexicographic := by
    rw [choices_eq_sublists hpos (by rwa [List.length_range])]
    exact pairwise_sublists List.pairwise_lt_range size

example : choices (List.range 4) 2 = [[0, 1], [0, 2], [0, 3], [1, 2], [1, 3], [2, 3]] := by
  decide

/-- Whatever holds at a position or not, it holds at all positions of some selection
    iff it does at as many positions as are selected. -/
theorem AreSelections.exists_iff {selections : List (List Nat)}
    (h : AreSelections length size selections) (holds : Nat → Prop) [DecidablePred holds] :
    (∃ positions ∈ selections, ∀ i ∈ positions, holds i) ↔
      size ≤ (List.range length).countP (holds ·) := by
  rw [← exists_sublist_iff]
  refine exists_congr fun positions => and_congr_left fun _ => ?_
  rw [h.mem_iff, mem_sublists_range]

theorem sublists_map (f : α → β) (items : List α) (size : Nat) :
    sublists size (items.map f) = (sublists size items).map (·.map f) := by
  induction items generalizing size with
  | nil => cases size <;> rfl
  | cons a rest ih =>
    cases size with
    | zero => rfl
    | succ size =>
      rw [List.map_cons, sublists, sublists, List.length_map, ih, ih]
      split
      · rfl
      · rw [List.map_append, List.map_map, List.map_map]
        rfl

theorem choices_map (f : α → β) (items : List α) (size : Nat) :
    choices (items.map f) size = (choices items size).map (·.map f) := by
  rw [choices, choices, List.length_map, sublists_map]
  split <;> rfl

/-- The choices of a list are what is read at the selections of its positions. -/
theorem readAt_choices (items : List α) (size : Nat) :
    ReadAt items (choices (List.range items.length) size) (choices items size) := by
  have hitems : items.map some = (List.range items.length).map (items[·]?) := by
    refine List.ext_getElem (by simp) fun i hi _ => ?_
    simp
  rw [ReadAt, ← choices_map, ← choices_map, hitems]

/-- There are as many choices as the binomial coefficient says. -/
theorem length_choices (hpos : 0 < size) (hsize : size ≤ items.length) :
    (choices items size).length = items.length.choose size := by
  rw [choices_eq_sublists hpos hsize, sublists_eq_reverse, List.length_reverse,
    List.length_sublistsLen]

end Endorsement.Product
