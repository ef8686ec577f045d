import Endorsement.Balance
import Endorsement.Proofs.Running
import Mathlib.Data.List.Rotate

/-!
# Balancers that choose

A balancer may do anything, but a request relies on it to choose one of the
candidates. The built-in ways to choose do.

* `turns`, `perm_turns`: candidates one after the other, which are all of them, once
  there are as many turns;
* `Balancer.Chooses`: a balancer that chooses one of the candidates;
* `Balance.chooses_balancer`: the built-in ways do;
* `Taken`, `Taken.concat`: choices that take turns, and that a round robin goes on
  with them.
-/

namespace Endorsement

variable {m : Type → Type} [Monad m]

/-! ## Positions -/

theorem candidateAt_mem {found : List Candidate} {i : Nat} (h : i < found.length) :
    candidateAt found i ∈ found := by
  rw [candidateAt, List.getElem?_eq_getElem h]
  exact List.getElem_mem h

theorem RoundRobin.next_lt {count : Nat} (h : 0 < count) (start : Nat) (last : Position) :
    next start last count < count := by
  have hif : ∀ n, (if n < count then n else 0) < count := by
    intro n
    split
    · assumption
    · exact h
  exact hif _

theorem Balance.choose_of_nil {draw : m Nat} {balance : Balance} {found : List Candidate}
    {last : Position} (h : found.length = 0) :
    balance.choose draw found last = pure ([], last) := by
  cases balance <;> cases last <;> simp only [choose, if_pos h]

/-- After a position among `count` comes the one behind it, counted round. -/
theorem RoundRobin.next_some {count last : Nat} (h : last < count) :
    next 0 (some last) count = (last + 1) % count := by
  rw [next]
  split
  · rename_i hlt
    exact (Nat.mod_eq_of_lt hlt).symm
  · rw [show last + 1 = count by omega, Nat.mod_self]

/-- Positions counted round, wherever they start, are all of them. -/
theorem perm_range_add_mod (start count : Nat) :
    ((List.range count).map fun i => (start + i) % count).Perm (List.range count) := by
  have hrotate : ((List.range count).map fun i => (start + i) % count) =
      (List.range count).rotate start :=
    List.ext_getElem (by simp) fun i _ _ => by simp [List.getElem_rotate, Nat.add_comm]
  rw [hrotate]
  exact List.rotate_perm _ start

/-! ## Turns -/

/-- Some candidates in turn, from a position on, starting over at the end. -/
def turns (found : List Candidate) (start count : Nat) : List Candidate :=
  (List.range count).map fun i => candidateAt found ((start + i) % found.length)

theorem turns_succ (found : List Candidate) (start count : Nat) :
    turns found start (count + 1) =
      turns found start count ++ [candidateAt found ((start + count) % found.length)] := by
  rw [turns, List.range_succ, List.map_append]
  rfl

theorem length_turns (found : List Candidate) (start count : Nat) :
    (turns found start count).length = count := by
  rw [turns, List.length_map, List.length_range]

/-- As many turns as there are candidates come to each of them. -/
theorem perm_turns (found : List Candidate) (start : Nat) :
    (turns found start found.length).Perm found := by
  have hinOrder : (List.range found.length).map (candidateAt found) = found :=
    List.ext_getElem (by simp) fun i hi hi' => by simp [candidateAt, hi']
  calc turns found start found.length
      = ((List.range found.length).map fun i => (start + i) % found.length).map
          (candidateAt found) := by rw [turns, List.map_map]; rfl
    List.Perm _ ((List.range found.length).map (candidateAt found)) :=
        (perm_range_add_mod start found.length).map _
    _ = found := hinOrder

/-! ## Choices -/

variable [MonadLiftT Logged m] {σ : Type} [Runs m σ] {keeps : σ → Prop}

/-- A balancer that chooses one of the candidates, and no peers if there are
    none. -/
structure Balancer.Chooses {ρ : Type} (keeps : σ → Prop) (balancer : Balancer m ρ) : Prop where
  fresh : Answers keeps balancer.fresh fun _ => True
  choose : ∀ found chooser, Answers keeps (balancer.choose found chooser) fun choice =>
    choice.1 ∈ found ∨ found = [] ∧ choice.1 = []

/-- The built-in ways choose one of the candidates. -/
theorem Balance.chooses_balancer {draw : m Nat} (hdraw : Answers keeps draw fun _ => True)
    (balance : Balance) : (balance.balancer draw).Chooses keeps where
  fresh := .pure trivial
  choose found last := by
    change Answers keeps (balance.choose draw found last) _
    by_cases hnil : found.length = 0
    · rw [choose_of_nil hnil]
      exact .pure (.inr ⟨List.length_eq_zero_iff.1 hnil, rfl⟩)
    · have hpos := Nat.pos_of_ne_zero hnil
      cases balance with
      | random =>
        simp only [choose, if_neg hnil]
        refine hdraw.bind fun drawn _ => .pure (.inl ?_)
        exact candidateAt_mem (Nat.mod_lt _ hpos)
      | roundRobin =>
        cases last with
        | none =>
          simp only [choose, if_neg hnil]
          refine hdraw.bind fun drawn _ => .pure (.inl ?_)
          exact candidateAt_mem (RoundRobin.next_lt hpos _ _)
        | some last =>
          simp only [choose, if_neg hnil]
          exact .pure (.inl (candidateAt_mem (RoundRobin.next_lt hpos _ _)))

/-! ## Taking turns -/

/-- Some choices take turns, and the position left is that of the last one. -/
inductive Taken (found : List Candidate) : List Candidate → Position → Prop
  /-- Before the first choice, the position is of no account. -/
  | idle (last : Position) : Taken found [] last
  | running (start count : Nat) :
      Taken found (turns found start (count + 1)) (some ((start + count) % found.length))

theorem Taken.exists_turns {found picks : List Candidate} {last : Position}
    (h : Taken found picks last) : ∃ start, picks = turns found start picks.length := by
  cases h with
  | idle _ => exact ⟨0, rfl⟩
  | running start count => exact ⟨start, by rw [length_turns]⟩

/-- A choice of a round robin, by the position left: the one after it if there is
    one, any other if not. -/
theorem Balance.run_roundRobin {found : List Candidate} (hne : found ≠ []) (draw : m Nat)
    (last : Position) (s : σ) :
    ∃ position, position < found.length ∧
      (∀ p, last = some p → position = RoundRobin.next 0 (some p) found.length) ∧
      (Runs.run ((Balance.roundRobin.balancer draw).choose found last) s).1 =
        (candidateAt found position, some position) := by
  have hpos := List.length_pos_of_ne_nil hne
  change ∃ position, _ ∧ _ ∧ (Runs.run (Balance.roundRobin.choose draw found last) s).1 = _
  cases last with
  | none =>
    simp only [choose, if_neg (Nat.ne_of_gt hpos), Runs.run_bind, Runs.run_pure]
    exact ⟨RoundRobin.next ((Runs.run draw s).1 % found.length) none found.length,
      RoundRobin.next_lt hpos _ none, fun _ h => absurd h (by simp), rfl⟩
  | some p =>
    simp only [choose, if_neg (Nat.ne_of_gt hpos), Runs.run_pure]
    refine ⟨_, RoundRobin.next_lt hpos 0 (some p), fun q h => ?_, rfl⟩
    rw [Option.some.inj h]

/-- A round robin goes on taking turns. -/
theorem Taken.concat {found picks : List Candidate} {last : Position} {position : Nat}
    (h : Taken found picks last) (hlt : position < found.length)
    (hnext : ∀ p, last = some p → position = RoundRobin.next 0 (some p) found.length) :
    Taken found (picks ++ [candidateAt found position]) (some position) := by
  cases h with
  | idle _ =>
    have hturns : Taken found (turns found position 1) _ := .running position 0
    rw [turns_succ, Nat.add_zero, Nat.mod_eq_of_lt hlt] at hturns
    exact hturns
  | running start count =>
    have hposition : position = (start + (count + 1)) % found.length := by
      rw [hnext _ rfl, RoundRobin.next_some (Nat.mod_lt _ (Nat.zero_lt_of_lt hlt)), Nat.mod_add_mod,
        Nat.add_assoc]
    rw [hposition, ← turns_succ]
    exact .running start (count + 1)

end Endorsement
