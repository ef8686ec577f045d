import Endorsement.Proofs.Group.Alternatives
import Endorsement.Proofs.Product.Selections

/-!
# At least so many groups

To ask for a number of groups out of several is to choose that many of them in all
ways, by their positions, so that equal groups count each on their own.

* `atLeast_counts`: which choices there are of any list, and what asking for a number
  of groups means.
-/

namespace Endorsement.Group

open Product

open Classical in
/-- There are no choices of no items, nor of more items than there are. Else the
    choices, which come by their first items, are read at all selections of that many
    positions, each once and in lexicographic order, as many as the binomial
    coefficient says.

    Asking for a number of groups is refused iff the number is not between one and the
    number of groups, with both numbers. Else it comes to the disjunction of the
    choices, and holds under a set of peers iff at least that many of the groups do,
    counted by position. So it is for whatever makes the group at a position hold:
    organisations may as well be looked up for each group on its own. -/
theorem atLeast_counts :
    (∀ (α : Type) (items : List α) (size : Nat),
      choicesByFirst size items = choices items size ∧
      (size = 0 ∨ items.length < size → choices items size = []) ∧
      (0 < size → size ≤ items.length →
        (choices items size).length = items.length.choose size ∧
        ∃ selections, AreSelections items.length size selections ∧
          ReadAt items selections (choices items size))) ∧
    ∀ (threshold : Int32) (groups : List Group),
      (atLeast threshold groups = .error (.badThreshold threshold groups.length) ↔
        ¬(1 ≤ threshold.toInt ∧ threshold.toInt ≤ groups.length)) ∧
      (1 ≤ threshold.toInt → threshold.toInt ≤ groups.length →
        ∃ chosen selections, atLeast threshold groups = .ok (chosen.map all) ∧
          AreSelections groups.length threshold.toInt.toNat selections ∧
          ReadAt groups selections chosen ∧
          (∀ (lookup : String → List Peer) (S : Set Peer),
            (any (chosen.map all)).Holds (.under lookup S) ↔
              threshold.toInt ≤ groups.countP (·.Holds (.under lookup S))) ∧
          ∀ holds : Nat → Prop, (∃ positions ∈ selections, ∀ i ∈ positions, holds i) ↔
            threshold.toInt ≤ (List.range groups.length).countP (holds ·)) := by
  refine ⟨fun α items size => ⟨choicesByFirst_eq size items, choices_eq_nil, fun hpos hsize => ?_⟩,
    fun threshold groups => ⟨?_, fun hpos hlen => ?_⟩⟩
  · exact ⟨length_choices hpos hsize, _, areSelections_choices_range hpos hsize,
      readAt_choices items size⟩
  · rw [atLeast_eq_error_iff, and_iff_left rfl]
    omega
  · have hok : atLeast threshold groups = .ok ((choices groups threshold.toInt.toNat).map all) :=
      atLeast_eq_ok_iff.2 ⟨⟨by omega, hlen⟩, rfl⟩
    have hselections : AreSelections groups.length threshold.toInt.toNat
        (choices (List.range groups.length) threshold.toInt.toNat) :=
      areSelections_choices_range (by omega) (by omega)
    refine ⟨_, _, hok, hselections, readAt_choices _ _, fun lookup S => ?_, fun holds => ?_⟩
    · rw [holds_any, exists_atLeast_holds hok]
    · rw [hselections.exists_iff]
      omega

/-- Of three groups, the first and the last for the same organisation, two hold where
    only that organisation has peers. -/
theorem atLeast_two_with_repeated :
    let p : Peer := { url := "a:1", mspId := "A" }
    let groups := [leaf (.msp "A"), leaf (.msp "B"), leaf (.msp "A")]
    ((4 = 0 ∨ groups.length < 4) ∧ choices groups 4 = []) ∧
    (0 < 2 ∧ 2 ≤ groups.length ∧ (choices groups 2).length = Nat.choose 3 2) ∧
    (1 ≤ (2 : Int32).toInt ∧ (2 : Int32).toInt ≤ groups.length) ∧
    ∃ chosen : List (List Group), atLeast 2 groups = .ok (chosen.map all) ∧
      (any (chosen.map all)).Holds (.under (fun mspId => if mspId = "A" then [p] else []) {p}) := by
  intro p groups
  obtain ⟨hchoices, hgroups⟩ := atLeast_counts
  have hlong : 4 = 0 ∨ groups.length < 4 := by decide
  have hpos : 1 ≤ (2 : Int32).toInt := by decide
  have hlen : (2 : Int32).toInt ≤ groups.length := by decide
  obtain ⟨chosen, _, hok, -, -, hholds, -⟩ := (hgroups 2 groups).2 hpos hlen
  have hchosen := (hholds (fun mspId => if mspId = "A" then [p] else []) {p}).2
    (by simp [groups, Valuation.under])
  exact ⟨⟨hlong, (hchoices Group groups 4).2.1 hlong⟩,
    ⟨by decide, by decide, ((hchoices Group groups 2).2.2 (by decide) (by decide)).1⟩,
    ⟨hpos, hlen⟩, chosen, hok, hchosen⟩

end Endorsement.Group
